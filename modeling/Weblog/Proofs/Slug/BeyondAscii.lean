import Mathlib.Data.List.Count
import Weblog.Proofs.Slug.Shape
import Weblog.Proofs.Text.Case
import Weblog.Proofs.Text.Lowercase

namespace Weblog

open Weblog.Text

namespace Slug

/-- A character beyond ASCII that has a letter of ASCII in its lowercase form. -/
def isLookalike (c : Char) : Bool :=
  c == kelvinSign || c == dottedI

/-- A character of ASCII or white space. -/
def isPlain (c : Char) : Bool :=
  c.toNat < 0x80 || isBlank c

/-- The title without the characters that are neither of ASCII nor white space. -/
def plainPart (title : String) : String :=
  String.ofList (title.toList.filter isPlain)

/-- The letter of ASCII for a character that looks like it. -/
def spell (c : Char) : Char :=
  if c = kelvinSign then 'k' else if c = dottedI then 'i' else c

/-- The title with letters of ASCII for the characters that look like them. -/
def spelled (title : String) : String :=
  String.ofList (title.toList.map spell)

/-- A character that is written into a slug, or that stands between words. -/
def isHeeded (c : Char) : Bool :=
  isWordChar c || isBlank c || isHyphen c

/-- What a character brings into a slug. -/
def share (c : Char) : List Char :=
  (lowerChar c).filter isHeeded

theorem squeeze_filter (joined : Bool) (cs : List Char) :
    squeeze joined (cs.filter isHeeded) = squeeze joined cs := by
  induction cs generalizing joined with
  | nil => rfl
  | cons c rest ih =>
      by_cases hc : isHeeded c = true
      · rw [List.filter_cons_of_pos hc, squeeze, squeeze, ih, ih, ih]
      · rw [List.filter_cons_of_neg hc, ih]
        simp only [isHeeded, Bool.or_eq_true, not_or, Bool.not_eq_true] at hc
        rw [squeeze_cons_of_other rest hc.1.1 hc.1.2 hc.2]

/-- Neither form of a small sigma is heeded, so that the place of a capital one does not matter. -/
theorem filter_lowerAfter (before cs : List Char) :
    (lowerAfter before cs).filter isHeeded = cs.flatMap share := by
  induction cs generalizing before with
  | nil => rfl
  | cons c rest ih =>
      rw [lowerAfter, List.filter_append, ih, List.flatMap_cons]
      congr 1
      by_cases hc : c = 'Σ'
      · rw [if_pos hc, hc]
        split <;> decide
      · rw [if_neg hc, share]

theorem ofTitle_congr {title title' : String}
    (h : title.toList.flatMap share = title'.toList.flatMap share) :
    ofTitle title = ofTitle title' := by
  have hsqueeze : squeeze true (lower title.toList) = squeeze true (lower title'.toList) := by
    rw [← squeeze_filter, lower, filter_lowerAfter, h, ← filter_lowerAfter [], squeeze_filter, lower]
  rw [ofTitle, ofTitle, ofLower, ofLower, hsqueeze]

theorem share_kelvinSign : share kelvinSign = ['k'] := by
  decide

theorem share_dottedI : share dottedI = ['i'] := by
  decide

theorem share_of_isWordChar {c : Char} (hc : isWordChar c = true) : share c = [c] := by
  rw [share, lowerChar, if_pos (ascii_of_isWordChar hc), toLower_of_isWordChar hc]
  exact List.filter_cons_of_pos (by simp [isHeeded, hc])

theorem isPlain_eq_false_iff {c : Char} :
    isPlain c = false ↔ 0x80 ≤ c.toNat ∧ isBlank c = false := by
  simp [isPlain]

theorem isLookalike_iff {c : Char} : isLookalike c = true ↔ c = kelvinSign ∨ c = dottedI := by
  simp [isLookalike]

theorem share_eq_nil {c : Char} (hplain : isPlain c = false) (hlookalike : isLookalike c = false) :
    share c = [] := by
  obtain ⟨hcode, hblank⟩ := isPlain_eq_false_iff.mp hplain
  have hne : ¬ (c = kelvinSign ∨ c = dottedI) := by simp [← isLookalike_iff, hlookalike]
  rw [not_or] at hne
  apply List.filter_eq_nil_iff.mpr
  intro d hd
  obtain ⟨hcode, hblank⟩ := not_ascii_of_mem_lowerChar hcode hblank hne.1 hne.2 d hd
  have hword : isWordChar d = false := by
    rw [Bool.eq_false_iff]
    intro hword
    have hbounds := toNat_of_isWordChar hword
    omega
  have hhyphen : isHyphen d = false := by
    rw [Bool.eq_false_iff, ne_eq, isHyphen_iff]
    rintro rfl
    exact absurd hcode (by decide)
  simp [isHeeded, hword, hblank, hhyphen]

theorem spell_of_not_isLookalike {c : Char} (hc : isLookalike c = false) : spell c = c := by
  have hne : ¬ (c = kelvinSign ∨ c = dottedI) := by simp [← isLookalike_iff, hc]
  rw [not_or] at hne
  rw [spell, if_neg hne.1, if_neg hne.2]

theorem share_spell {c : Char} (hc : isLookalike c = true) :
    isPlain (spell c) = true ∧ share (spell c) = share c := by
  rcases isLookalike_iff.mp hc with rfl | rfl
  · rw [share_kelvinSign]
    exact ⟨by decide, share_of_isWordChar (by decide)⟩
  · rw [share_dottedI]
    exact ⟨by decide, share_of_isWordChar (by decide)⟩

theorem flatMap_share_spell (cs : List Char) :
    cs.flatMap share = ((cs.map spell).filter isPlain).flatMap share := by
  induction cs with
  | nil => rfl
  | cons c rest ih =>
      rw [List.flatMap_cons, ih, List.map_cons]
      cases hlookalike : isLookalike c with
      | true =>
          obtain ⟨hplain, hshare⟩ := share_spell hlookalike
          rw [List.filter_cons_of_pos hplain, List.flatMap_cons, hshare]
      | false =>
          rw [spell_of_not_isLookalike hlookalike]
          cases hplain : isPlain c with
          | true => rw [List.filter_cons_of_pos hplain, List.flatMap_cons]
          | false =>
              rw [List.filter_cons_of_neg (by simp [hplain]), share_eq_nil hplain hlookalike,
                List.nil_append]

theorem ofTitle_eq_plainPart_spelled (title : String) :
    ofTitle title = ofTitle (plainPart (spelled title)) := by
  apply ofTitle_congr
  rw [plainPart, spelled, String.toList_ofList, String.toList_ofList]
  exact flatMap_share_spell title.toList

theorem spelled_eq_self {title : String} (h : ∀ c ∈ title.toList, isLookalike c = false) :
    spelled title = title := by
  rw [spelled, List.map_congr_left (g := id), List.map_id, String.ofList_toList]
  intro c hc
  exact spell_of_not_isLookalike (h c hc)

/-- Nothing of the slug of the title is cut off for its length. -/
def IsUncut (title : String) : Prop :=
  (trimHyphens (squeeze true (lower title.toList))).length ≤ maxLength

instance (title : String) : Decidable (IsUncut title) :=
  inferInstanceAs (Decidable (_ ≤ _))

theorem countP_squeeze (joined : Bool) (cs : List Char) :
    (squeeze joined cs).countP isWordChar = cs.countP isWordChar := by
  induction cs generalizing joined with
  | nil => rfl
  | cons c rest ih =>
      by_cases hc : isWordChar c = true
      · rw [squeeze_cons_of_isWordChar rest hc, List.countP_cons_of_pos hc,
          List.countP_cons_of_pos hc, ih]
      · rw [List.countP_cons_of_neg hc, squeeze, if_neg hc]
        split
        · rw [List.countP_cons_of_neg (by decide), ih]
        · exact ih joined

theorem countP_dropWhile (cs : List Char) :
    (cs.dropWhile isHyphen).countP isWordChar = cs.countP isWordChar := by
  induction cs with
  | nil => rfl
  | cons c rest ih =>
      by_cases hc : isHyphen c = true
      · have hword : ¬ isWordChar c = true := by
          rw [isHyphen_iff.mp hc]
          decide
        rw [List.dropWhile_cons_of_pos hc, List.countP_cons_of_neg hword, ih]
      · rw [List.dropWhile_cons_of_neg hc]

theorem countP_dropEndWhile (cs : List Char) :
    (dropEndWhile isHyphen cs).countP isWordChar = cs.countP isWordChar := by
  rw [dropEndWhile_eq_rdropWhile, List.rdropWhile, List.countP_reverse, countP_dropWhile,
    List.countP_reverse]

theorem countP_ofTitle_le (title : String) :
    (ofTitle title).toList.countP isWordChar ≤ (lower title.toList).countP isWordChar := by
  rw [ofTitle, String.toList_ofList, ofLower, countP_dropEndWhile]
  apply ((List.take_sublist _ _).countP_le).trans
  rw [trimHyphens, countP_dropEndWhile, countP_dropWhile, countP_squeeze]

theorem countP_ofTitle {title : String} (h : IsUncut title) :
    (ofTitle title).toList.countP isWordChar = (lower title.toList).countP isWordChar := by
  rw [ofTitle, String.toList_ofList, ofLower, countP_dropEndWhile, List.take_of_length_le h,
    trimHyphens, countP_dropEndWhile, countP_dropWhile, countP_squeeze]

theorem countP_lower (cs : List Char) :
    (lower cs).countP isWordChar = (cs.flatMap share).countP isWordChar := by
  rw [← filter_lowerAfter [], List.countP_filter, lower]
  apply List.countP_congr
  intro c _
  simp +contextual [isHeeded]

theorem countP_flatMap_share (cs : List Char) :
    (cs.flatMap share).countP isWordChar =
      ((cs.filter isPlain).flatMap share).countP isWordChar + cs.countP isLookalike := by
  induction cs with
  | nil => rfl
  | cons c rest ih =>
      rw [List.flatMap_cons, List.countP_append, ih]
      by_cases hplain : isPlain c = true
      · have hnot : ¬ isLookalike c = true := by
          rw [isLookalike_iff]
          rintro (rfl | rfl)
          · exact absurd hplain (by decide)
          · exact absurd hplain (by decide)
        rw [List.filter_cons_of_pos hplain, List.flatMap_cons, List.countP_append,
          List.countP_cons_of_neg hnot, Nat.add_assoc]
      rw [List.filter_cons_of_neg hplain]
      -- beyond ASCII, a lookalike brings one letter and nothing else brings any
      by_cases hlookalike : isLookalike c = true
      · have hone : (share c).countP isWordChar = 1 := by
          rcases isLookalike_iff.mp hlookalike with rfl | rfl
          · rw [share_kelvinSign]
            rfl
          · rw [share_dottedI]
            rfl
        rw [List.countP_cons_of_pos hlookalike, hone]
        omega
      · rw [List.countP_cons_of_neg hlookalike,
          share_eq_nil (Bool.not_eq_true _ ▸ hplain) (Bool.not_eq_true _ ▸ hlookalike)]
        simp

/-- White space apart, characters beyond ASCII are in the slug of a title as the letters that they
look like, or not at all. Where nothing is cut off, the slug is that of the title without them if
and only if there are none that look like letters. -/
theorem beyond_ascii_in_slug (title : String) :
    ofTitle title = ofTitle (plainPart (spelled title)) ∧
      ((∀ c ∈ title.toList, isLookalike c = false) → ofTitle title = ofTitle (plainPart title)) ∧
      (IsUncut title →
        (ofTitle title = ofTitle (plainPart title) ↔
          ∀ c ∈ title.toList, isLookalike c = false)) := by
  have hspelled := ofTitle_eq_plainPart_spelled title
  have hnone : (∀ c ∈ title.toList, isLookalike c = false) →
      ofTitle title = ofTitle (plainPart title) := by
    intro h
    rwa [spelled_eq_self h] at hspelled
  refine ⟨hspelled, hnone, ?_⟩
  intro huncut
  refine ⟨?_, hnone⟩
  intro heq
  have hcount := countP_ofTitle huncut
  have hless := countP_ofTitle_le (plainPart title)
  rw [← heq, hcount, countP_lower, countP_lower, countP_flatMap_share, plainPart,
    String.toList_ofList] at hless
  have hzero : title.toList.countP isLookalike = 0 := by omega
  intro c hc
  simpa using List.countP_eq_zero.mp hzero c hc

theorem beyond_ascii_in_slug_kelvin :
    ofTitle "caf\u00e9 300" = ofTitle (plainPart "caf\u00e9 300") ∧
      IsUncut "300 \u212a" ∧ ofTitle "300 \u212a" ≠ ofTitle (plainPart "300 \u212a") := by
  have hnolookalike : "caf\u00e9 300".toList.any isLookalike = false := by decide
  have huncut : IsUncut "300 \u212a" := by decide
  refine ⟨?_, huncut, ?_⟩
  · apply (beyond_ascii_in_slug "caf\u00e9 300").2.1
    intro c hc
    exact Bool.eq_false_iff.mpr (List.any_eq_false.mp hnolookalike c hc)
  intro heq
  have hnone := ((beyond_ascii_in_slug "300 \u212a").2.2 huncut).mp heq kelvinSign (by decide)
  exact absurd hnone (by decide)

theorem not_slug_of_plainPart : ¬ ∀ title, ofTitle title = ofTitle (plainPart title) := by
  intro h
  have hfull : ofTitle "300 \u212a" = "300-k" := by decide
  have hplain : ofTitle (plainPart "300 \u212a") = "300" := by decide
  have hsame := h "300 \u212a"
  rw [hfull, hplain] at hsame
  exact absurd hsame (by decide)

end Slug

end Weblog
