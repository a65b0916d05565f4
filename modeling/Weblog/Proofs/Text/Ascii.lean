import Mathlib.Data.String.Basic

namespace Weblog.Text

theorem isLower_iff {c : Char} : c.isLower = true ↔ 0x61 ≤ c.toNat ∧ c.toNat ≤ 0x7A := by
  change (decide (c.val ≥ 'a'.val) && decide (c.val ≤ 'z'.val)) = true ↔ _
  rw [Bool.and_eq_true, decide_eq_true_eq, decide_eq_true_eq, ge_iff_le, UInt32.le_iff_toNat_le,
    UInt32.le_iff_toNat_le]
  exact Iff.rfl

theorem isUpper_iff {c : Char} : c.isUpper = true ↔ 0x41 ≤ c.toNat ∧ c.toNat ≤ 0x5A := by
  change decide (c.val ≥ 'A'.val ∧ c.val ≤ 'Z'.val) = true ↔ _
  rw [decide_eq_true_eq, ge_iff_le, UInt32.le_iff_toNat_le, UInt32.le_iff_toNat_le]
  exact Iff.rfl

theorem isAlpha_iff {c : Char} : c.isAlpha = true ↔ c.isUpper = true ∨ c.isLower = true :=
  Bool.or_eq_true_iff

theorem isDigit_iff {c : Char} : c.isDigit = true ↔ 0x30 ≤ c.toNat ∧ c.toNat ≤ 0x39 := by
  simp only [Char.isDigit, Bool.and_eq_true, decide_eq_true_eq, ge_iff_le,
    UInt32.le_iff_toNat_le]
  exact Iff.rfl

theorem toNat_of_isLower {c : Char} (hc : c.isLower = true) :
    0x61 ≤ c.toNat ∧ c.toNat ≤ 0x7A :=
  isLower_iff.mp hc

theorem toNat_of_isDigit {c : Char} (hc : c.isDigit = true) :
    0x30 ≤ c.toNat ∧ c.toNat ≤ 0x39 :=
  isDigit_iff.mp hc

theorem ascii_of_isLower {c : Char} (hc : c.isLower = true) : c.toNat < 0x80 :=
  Nat.lt_of_le_of_lt (toNat_of_isLower hc).2 (by decide)

theorem ascii_of_isDigit {c : Char} (hc : c.isDigit = true) : c.toNat < 0x80 :=
  Nat.lt_of_le_of_lt (toNat_of_isDigit hc).2 (by decide)

theorem forall_ascii {P : Char → Prop} (h : ∀ n : Fin 0x80, P (Char.ofNat n)) :
    ∀ c : Char, c.toNat < 0x80 → P c := by
  intro c hc
  have hthis := h ⟨c.toNat, hc⟩
  rwa [Char.ofNat_toNat] at hthis

theorem forall_mem_of_all {P : Char → Prop} [DecidablePred P] {cs : List Char}
    (h : (cs.all fun c => decide (P c)) = true) : ∀ c ∈ cs, P c := by
  intro c hc
  exact of_decide_eq_true (List.all_eq_true.mp h c hc)

theorem toLower_cases (c : Char) :
    c.toLower = c ∨
      0x41 ≤ c.toNat ∧ c.toNat ≤ 0x5A ∧ c.toLower.toNat = c.toNat + 0x20 := by
  unfold Char.toLower
  split
  · rename_i hupper
    obtain ⟨hleast, hmost⟩ := hupper
    simp only [ge_iff_le, UInt32.le_iff_toNat_le] at hleast hmost
    refine .inr ⟨hleast, hmost, ?_⟩
    have hwrap : c.val.toNat + 0x20 < 2 ^ 32 := by
      have : ('Z'.val).toNat = 0x5A := rfl
      omega
    change (c.val + ('a'.val - 'A'.val)).toNat = c.val.toNat + 0x20
    rw [UInt32.toNat_add]
    exact Nat.mod_eq_of_lt hwrap
  · exact .inl rfl

theorem toLower_toLower (c : Char) : c.toLower.toLower = c.toLower := by
  rcases toLower_cases c with hc | ⟨hleast, -, hc⟩
  · rw [hc, hc]
  · exact (toLower_cases c.toLower).resolve_right fun h => by omega

theorem eq_or_letters_of_toLower_eq {c d : Char} (h : c.toLower = d.toLower) :
    c = d ∨ (0x41 ≤ c.toNat ∧ c.toNat < 0x80) ∧ 0x41 ≤ d.toNat ∧ d.toNat < 0x80 := by
  have hnat := congrArg Char.toNat h
  rcases toLower_cases c with hc | ⟨hc, hc', hcl⟩ <;>
    rcases toLower_cases d with hd | ⟨hd, hd', hdl⟩
  · exact .inl (hc.symm.trans (h.trans hd))
  · rw [hc] at hnat
    exact .inr (by omega)
  · rw [hd] at hnat
    exact .inr (by omega)
  · exact .inr (by omega)

theorem eq_of_toLower_eq {c d : Char} (h : c.toLower = d.toLower)
    (hd : d.toNat < 0x41 ∨ 0x80 ≤ d.toNat) : c = d := by
  rcases eq_or_letters_of_toLower_eq h with hcd | ⟨-, hd'⟩
  · exact hcd
  · omega

theorem utf8Size_eq_of_toLower_eq {c d : Char} (h : c.toLower = d.toLower) :
    c.utf8Size = d.utf8Size := by
  have hone : ∀ {c : Char}, c.toNat < 0x80 → c.utf8Size = 1 := by
    intro c hc
    rw [Char.utf8Size_eq_one_iff, UInt32.le_iff_toNat_le]
    exact Nat.le_of_lt_succ hc
  rcases eq_or_letters_of_toLower_eq h with rfl | ⟨⟨-, hc⟩, -, hd⟩
  · rfl
  · rw [hone hc, hone hd]

end Weblog.Text
