import Weblog.Proofs.Json.View

namespace Weblog.Json

variable {bs : Bytes}

theorem leadingDigits_eq {ds : List Nat} {n : Nat}
    (h : ds.foldl (fun n d => n * 10 + d) n < Nat.pow 2 64) :
    leadingDigits n ds = (ds.foldl (fun n d => n * 10 + d) n, []) := by
  have hle : ∀ (ds : List Nat) (n : Nat), n ≤ ds.foldl (fun n d => n * 10 + d) n := by
    intro ds
    induction ds with
    | nil => exact fun n => Nat.le_refl n
    | cons d ds ih => exact fun n => Nat.le_trans (by omega) (ih (n * 10 + d))
  induction ds generalizing n with
  | nil => rfl
  | cons d ds ih =>
      rw [List.foldl_cons] at h ⊢
      rw [leadingDigits, if_pos (Nat.lt_of_le_of_lt (hle ds _) h), ih h]

theorem overflows_ofNat {n : Nat} (hn : n < Nat.pow 2 64) :
    ((Binary.ofNat n).mul (Binary.ofNat (Nat.pow 10 0))).overflows = false := by
  have hone : Binary.ofNat (Nat.pow 10 0) = ⟨1, 0⟩ := rfl
  have hwidth : Nat.pow 2 64 = 18446744073709551616 := rfl
  obtain ⟨hmantissa, k, hpower, hk⟩ : (Binary.ofNat n).mantissa ≤ Nat.pow 2 64 ∧
      ∃ k : Nat, (Binary.ofNat n).power = k ∧ k ≤ 11 := by
    rw [Binary.ofNat]
    split
    · exact ⟨Nat.le_of_lt hn, 0, rfl, by omega⟩
    · rename_i hlarge
      have hpos : n ≠ 0 := by
        rintro rfl
        exact hlarge (by decide)
      have hlog : n.log2 < 64 := (Nat.log2_lt hpos).mpr hn
      refine ⟨?_, n.log2 - 52, rfl, by omega⟩
      have hdiv : n / Nat.pow 2 (n.log2 - 52) ≤ n := Nat.div_le_self _ _
      simp only [halveToEven]
      split <;> omega
  rw [hone, Binary.mul, Binary.overflows, hpower]
  simp only [Int.add_zero, Nat.mul_one]
  rw [if_pos (Int.natCast_nonneg k)]
  refine decide_eq_false (Nat.not_le.mpr ?_)
  have hmin : (min (k : Int) 1024).toNat = k := by omega
  rw [hmin]
  -- the exponents stand for themselves here, so that no power of such a size is computed
  have hlimit : ∀ e e', 75 ≤ e → e' = e + 54 →
      Nat.pow 2 64 * Nat.pow 2 11 < Nat.pow 2 e' - Nat.pow 2 e := by
    rintro e _ he rfl
    have hsplit : Nat.pow 2 (e + 54) = Nat.pow 2 e * Nat.pow 2 54 := Nat.pow_add 2 e 54
    have hleast : Nat.pow 2 75 ≤ Nat.pow 2 e := Nat.pow_le_pow_right (by decide) he
    have hpowers : Nat.pow 2 11 = 2048 ∧ Nat.pow 2 54 = 18014398509481984 ∧
        Nat.pow 2 75 = 37778931862957161709568 := ⟨rfl, rfl, rfl⟩
    rw [hpowers.2.2] at hleast
    rw [hsplit, hwidth, hpowers.1, hpowers.2.1]
    omega
  have hproduct := Nat.mul_le_mul hmantissa (Nat.pow_le_pow_right (Nat.succ_pos 1) hk)
  exact Nat.lt_of_le_of_lt hproduct (hlimit 970 1024 (by decide) rfl)

theorem head?_of_numeral? {n : Numeral} (h : numeral? bs = some n) :
    ∃ b, (skipSpace bs).head? = some b ∧ (b = byte '-' ∨ isDigit b = true) := by
  rw [numeral?] at h
  cases hbytes : skipSpace bs with
  | nil =>
      rw [hbytes] at h
      cases h
  | cons b rest =>
      refine ⟨b, rfl, ?_⟩
      by_cases hsign : b = byte '-'
      · exact .inl hsign
      · right
        by_contra hdigit
        simp [hbytes, hsign, digits, hdigit] at h

theorem Numeral.integer?_eq_some {n : Numeral} {i : Int} (h : n.integer? = some i) :
    n.fraction = none ∧ n.exponent = none ∧ ofDigits n.whole = i.natAbs := by
  rw [Numeral.integer?] at h
  split at h
  · rename_i hparts
    obtain ⟨hfraction, hexponent⟩ := hparts
    refine ⟨Option.isNone_iff_eq_none.mp hfraction, Option.isNone_iff_eq_none.mp hexponent, ?_⟩
    dsimp only at h
    split at h
    · split at h
      · cases h
      · rw [← Option.some.inj h]
        simp
    · rw [← Option.some.inj h]
      simp
  · cases h

theorem Numeral.isFinite_of_integer? {n : Numeral} {i : Int} (h : n.integer? = some i)
    (hi : fitsSigned i = true) : n.isFinite = true := by
  obtain ⟨hfraction, hexponent, hvalue⟩ := integer?_eq_some h
  have hbound : i.natAbs < Nat.pow 2 64 := by
    have hwidth : Nat.pow 2 64 = 18446744073709551616 := rfl
    have hpow : Nat.pow 2 63 = 9223372036854775808 := rfl
    rw [fitsSigned, hpow, Bool.and_eq_true, decide_eq_true_eq, decide_eq_true_eq] at hi
    simp only [Int.ofNat_eq_natCast] at hi
    omega
  have hleading : leadingDigits 0 n.whole = (i.natAbs, []) := by
    rw [ofDigits] at hvalue
    rw [leadingDigits_eq (by rw [hvalue]; exact hbound), hvalue]
  simp only [isFinite, magnitude?, scaled, hleading, hfraction, hexponent, leadingDigits,
    Option.getD_none, List.length_nil]
  split
  · rfl
  · have hpower : ((0 : Nat) : Int) - ((0 - 0 : Nat) : Int) + 0 = 0 := rfl
    have hzero : (0 : Int).toNat = 0 := rfl
    rw [hpower, if_neg (by decide), if_pos (by decide), hzero]
    simp only [overflows_ofNat hbound, Bool.false_eq_true, if_false, Option.isSome_some]

theorem isPlain_of_int? {i : Int} (h : int? bs = some i) (depth : Nat) :
    isPlain depth bs = true := by
  obtain ⟨n, hnumeral, hn⟩ := Option.bind_eq_some_iff.mp h
  obtain ⟨j, hinteger, hfits⟩ := Option.bind_eq_some_iff.mp hn
  have hj : fitsSigned j = true := by
    by_contra hj
    rw [if_neg hj] at hfits
    cases hfits
  obtain ⟨b, hfirst, hb⟩ := head?_of_numeral? hnumeral
  have hquote : b ≠ byte '"' := by
    rintro rfl
    exact absurd hb (by decide)
  rw [isPlain.eq_def, hfirst]
  simp only [if_neg hquote, if_pos hb, hnumeral, Option.any_some,
    Numeral.isFinite_of_integer? hinteger hj]

theorem isPlain_of_int {n : Int} (h : Begins (.int n) bs) (hn : fitsSigned n = true)
    (depth : Nat) : isPlain depth bs = true :=
  isPlain_of_int? (int?_of_begins h hn) depth

theorem isPlain_of_string? {s : String} (h : string? bs = some s) (depth : Nat) :
    isPlain depth bs = true := by
  have hfirst : (skipSpace bs).head? = some (byte '"') := by
    rw [string?] at h
    split at h
    · rename_i b rest hbytes
      split at h
      · rename_i hb
        rw [hbytes, hb, List.head?_cons]
      · cases h
    · cases h
  rw [isPlain.eq_def, hfirst]
  simp only [if_true, h, Option.isSome_some]

theorem isPlain_of_string {s : String} (h : Begins (.string s) bs) (depth : Nat) :
    isPlain depth bs = true :=
  isPlain_of_string? (string?_of_begins h) depth

theorem head?_of_members? {members : List (String × Bytes)} (h : members? bs = some members) :
    (skipSpace bs).head? = some (byte '\x7b') := by
  rw [members?] at h
  split at h
  · rename_i b rest hbytes
    split at h
    · rename_i hb
      rw [hbytes, hb, List.head?_cons]
    · cases h
  · cases h

theorem isPlain_succ_eq_all {members : List (String × Bytes)} (h : members? bs = some members)
    (depth : Nat) : isPlain (depth + 1) bs = members.all fun m => isPlain depth m.2 := by
  rw [isPlain.eq_def, head?_of_members? h]
  simp only [h, Option.any_some]
  rfl

theorem isPlain_of_forall₂ {members : List (String × Value)} {views : List (String × Bytes)}
    {depth : Nat} (h : List.Forall₂ BeginsMember members views)
    (hmembers : ∀ m ∈ members, ∀ view, Begins m.2 view → isPlain depth view = true) :
    views.all (fun m => isPlain depth m.2) = true := by
  induction h with
  | nil => rfl
  | cons hmember _ ih =>
      obtain ⟨hfirst, hmembers⟩ := List.forall_mem_cons.mp hmembers
      rw [List.all_cons, hfirst _ hmember.2, ih hmembers]
      rfl

theorem isPlain_of_object {members : List (String × Value)} {depth : Nat}
    (h : Begins (.object members) bs)
    (hmembers : ∀ m ∈ members, ∀ view, Begins m.2 view → isPlain depth view = true) :
    isPlain (depth + 1) bs = true := by
  obtain ⟨views, hviews, hall⟩ := members?_of_begins h
  rw [isPlain_succ_eq_all hviews, isPlain_of_forall₂ hall hmembers]

end Weblog.Json
