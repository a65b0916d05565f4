import Mathlib.Data.List.Forall2
import Mathlib.Data.List.TakeWhile
import Weblog.Proofs.Text.Ascii
import Weblog.Settings
import Weblog.Text.AsciiCase
import Weblog.Text.Lowercase
import Weblog.Validation

namespace Weblog

namespace Text

open Settings

theorem lowerChar_eq_of_toLower_eq {c d : Char} (h : c.toLower = d.toLower) :
    lowerChar c = lowerChar d := by
  rcases eq_or_letters_of_toLower_eq h with rfl | ⟨⟨-, hc⟩, -, hd⟩
  · rfl
  · rw [lowerChar, lowerChar, if_pos hc, if_pos hd, h]

/-- The texts differ only in the case of letters of ASCII. -/
def CaseVariant (cs ds : List Char) : Prop :=
  List.Forall₂ (fun c d => c.toLower = d.toLower) cs ds

theorem map_toLower_eq_iff {cs ds : List Char} :
    cs.map Char.toLower = ds.map Char.toLower ↔ CaseVariant cs ds := by
  rw [← List.forall₂_eq_eq_eq, List.forall₂_map_left_iff, List.forall₂_map_right_iff]
  rfl

theorem eqIgnoringCase_iff {a b : String} :
    eqIgnoringCase a b = true ↔ CaseVariant a.toList b.toList := by
  rw [eqIgnoringCase, beq_iff_eq, map_toLower_eq_iff]

namespace CaseVariant

variable {cs ds : List Char}

theorem untilNul (h : CaseVariant cs ds) : CaseVariant (untilNul cs) (untilNul ds) := by
  induction h with
  | nil => exact .nil
  | @cons c d cs ds hcd _ ih =>
      by_cases hc : c = '\x00'
      · obtain rfl : d = c := eq_of_toLower_eq hcd.symm (.inl (by simp [hc]))
        rw [hc, Text.untilNul, Text.untilNul, List.takeWhile_cons, List.takeWhile_cons]
        exact .nil
      · have hd : d ≠ '\x00' := by
          rintro rfl
          exact hc (eq_of_toLower_eq hcd (.inl (by simp)))
        rw [Text.untilNul, Text.untilNul, List.takeWhile_cons_of_pos (by simpa using hc),
          List.takeWhile_cons_of_pos (by simpa using hd)]
        exact .cons hcd ih

theorem utf8Len_eq (h : CaseVariant cs ds) : String.utf8Len cs = String.utf8Len ds := by
  induction h with
  | nil => rfl
  | cons hcd _ ih => rw [String.utf8Len_cons, String.utf8Len_cons, ih, utf8Size_eq_of_toLower_eq hcd]

theorem mem_iff (h : CaseVariant cs ds) {c : Char} (hc : 0x80 ≤ c.toNat) : c ∈ cs ↔ c ∈ ds := by
  induction h with
  | nil => rfl
  | @cons d e cs ds hde _ ih =>
      have hhead : c = d ↔ c = e := by
        constructor
        · rintro rfl
          exact (eq_of_toLower_eq hde.symm (.inr hc)).symm
        · rintro rfl
          exact (eq_of_toLower_eq hde (.inr hc)).symm
      rw [List.mem_cons, List.mem_cons, hhead, ih]

theorem flatMap_lowerChar_eq (h : CaseVariant cs ds) :
    cs.flatMap lowerChar = ds.flatMap lowerChar := by
  induction h with
  | nil => rfl
  | cons hcd _ ih => rw [List.flatMap_cons, List.flatMap_cons, lowerChar_eq_of_toLower_eq hcd, ih]

end CaseVariant

theorem equalFold_iff {a b : String} :
    equalFold a b = true ↔ a.utf8ByteSize = b.utf8ByteSize ∧
      CaseVariant (untilNul a.toList) (untilNul b.toList) := by
  rw [equalFold, Bool.and_eq_true, beq_iff_eq, beq_iff_eq, map_toLower_eq_iff]

theorem equalFold_of_eqIgnoringCase {a b : String} (h : eqIgnoringCase a b = true) :
    equalFold a b = true := by
  rw [eqIgnoringCase_iff] at h
  rw [equalFold_iff, ← String.utf8Len_toList, ← String.utf8Len_toList]
  exact ⟨h.utf8Len_eq, h.untilNul⟩

theorem untilNul_eq_self {cs : List Char} (h : '\x00' ∉ cs) : untilNul cs = cs := by
  apply List.takeWhile_eq_self_iff.mpr
  intro c hc
  have hne : c ≠ '\x00' := by
    rintro rfl
    exact h hc
  simpa using hne

/-- A text without the character with the code 0 is taken only for texts that are equal to it up to
the case of letters of ASCII. -/
theorem equalFold_iff_eqIgnoringCase {a b : String} (hb : '\x00' ∉ b.toList) :
    equalFold a b = true ↔ eqIgnoringCase a b = true := by
  constructor
  · intro h
    obtain ⟨hsize, hvariant⟩ := equalFold_iff.mp h
    rw [untilNul_eq_self hb] at hvariant
    have hsplit := List.takeWhile_append_dropWhile (p := (· != '\x00')) (l := a.toList)
    have hbehind : a.toList.dropWhile (· != '\x00') = [] := by
      apply String.utf8Len_eq_zero.mp
      have hlength := congrArg String.utf8Len hsplit
      rw [String.utf8Len_append, String.utf8Len_toList, hsize, ← String.utf8Len_toList b,
        ← hvariant.utf8Len_eq] at hlength
      exact Nat.add_eq_left.mp hlength
    rw [hbehind, List.append_nil] at hsplit
    rw [untilNul, hsplit] at hvariant
    exact eqIgnoringCase_iff.mpr hvariant
  · exact equalFold_of_eqIgnoringCase

theorem equalFold_congr {a b : String} (h : equalFold a b = true) (c : String) :
    equalFold a c = equalFold b c := by
  simp only [equalFold, Bool.and_eq_true, beq_iff_eq] at h ⊢
  rw [h.1, h.2]

theorem lowerAfter_eq_flatMap {cs : List Char} (hcs : 'Σ' ∉ cs) (before : List Char) :
    lowerAfter before cs = cs.flatMap lowerChar := by
  induction cs generalizing before with
  | nil => rfl
  | cons c cs ih =>
      rw [List.mem_cons, not_or] at hcs
      rw [lowerAfter, if_neg (Ne.symm hcs.1), ih hcs.2, List.flatMap_cons]

theorem exists_mem_lowerAfter {cs : List Char} (hcs : 'Σ' ∈ cs) (before : List Char) :
    ∃ c ∈ lowerAfter before cs, 0x80 ≤ c.toNat := by
  induction cs generalizing before with
  | nil => exact nomatch hcs
  | cons c cs ih =>
      rw [lowerAfter]
      rcases List.mem_cons.mp hcs with rfl | hcs
      · rw [if_pos rfl]
        split
        · exact ⟨'ς', List.mem_cons_self, by decide⟩
        · exact ⟨'σ', List.mem_cons_self, by decide⟩
      · obtain ⟨d, hd, hdcode⟩ := ih hcs (c :: before)
        exact ⟨d, List.mem_append_right _ hd, hdcode⟩

/-- The item may stand for the character. -/
def Item.admits : Item → Char → Bool
  | .one p => p
  | .many p => p

theorem forall_mem_of_fits {P : Char → Prop} {items : Pattern} {cs : List Char}
    (hitems : ∀ item ∈ items, ∀ c, item.admits c = true → P c) (h : items.fits cs = true) :
    ∀ c ∈ cs, P c := by
  induction items generalizing cs with
  | nil =>
      obtain rfl : cs = [] := by simpa [Pattern.fits] using h
      exact List.forall_mem_nil _
  | cons item items ih =>
      rw [List.forall_mem_cons] at hitems
      cases item with
      | one p =>
          obtain ⟨c, rest, rfl, hc, hrest⟩ := fits_one_iff.mp h
          rw [List.forall_mem_cons]
          exact ⟨hitems.1 c hc, ih hitems.2 hrest⟩
      | many p =>
          obtain ⟨taken, rest, rfl, htaken, hrest⟩ := fits_many_iff.mp h
          rw [List.forall_mem_append]
          exact ⟨fun c hc => hitems.1 c (htaken c hc), ih hitems.2 hrest⟩

end Text

open Text Settings

theorem isAscii_of_isEmail {email : String} (h : isEmail email = true) :
    ∀ c ∈ lower email.toList, c.toNat < 0x80 := by
  have hmailbox : ∀ c, isMailboxChar c = true → c.toNat < 0x80 := by
    intro c hc
    simp only [isMailboxChar, Bool.or_eq_true, beq_iff_eq] at hc
    rcases hc with (((((hc | hc) | rfl) | rfl) | rfl) | rfl) | rfl
    · exact ascii_of_isLower hc
    · exact ascii_of_isDigit hc
    all_goals decide
  have hhost : ∀ c, isHostChar c = true → c.toNat < 0x80 := by
    intro c hc
    simp only [isHostChar, Bool.or_eq_true, beq_iff_eq] at hc
    rcases hc with ((hc | hc) | rfl) | rfl
    · exact ascii_of_isLower hc
    · exact ascii_of_isDigit hc
    all_goals decide
  refine forall_mem_of_fits ?_ h
  simpa [emailPattern, oneOrMore, Item.admits] using ⟨hmailbox, hhost, fun _ => ascii_of_isLower⟩

theorem isEmail_of_eqIgnoringCase {a b : String} (hab : eqIgnoringCase a b = true)
    (ha : isEmail a = true) : isEmail b = true := by
  rw [eqIgnoringCase_iff] at hab
  have hsigma : 'Σ' ∉ a.toList := by
    intro hmem
    obtain ⟨c, hc, hcode⟩ := exists_mem_lowerAfter hmem []
    exact Nat.not_lt.mpr hcode (isAscii_of_isEmail ha c hc)
  -- without a sigma, each character is put in lowercase on its own
  have hlower : lower b.toList = lower a.toList := by
    rw [lower, lower, lowerAfter_eq_flatMap hsigma,
      lowerAfter_eq_flatMap ((hab.mem_iff (by decide)).not.mp hsigma), hab.flatMap_lowerChar_eq]
  rwa [isEmail, hlower]

theorem emailFault_eq_none_iff {email : String} : emailFault email = none ↔ isEmail email = true := by
  have hempty : isEmail "" = false := by decide
  rw [emailFault]
  split
  · rename_i h
    obtain rfl := String.isEmpty_iff.mp h
    simp [hempty]
  · simp

end Weblog
