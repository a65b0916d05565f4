import Weblog.Proofs.Slug.Shape
import Weblog.Proofs.Text.Case

namespace Weblog

open Weblog.Text

theorem Text.lower_eq_self {cs : List Char} (hascii : ∀ c ∈ cs, c.toNat < 0x80)
    (hlower : ∀ c ∈ cs, c.toLower = c) : lower cs = cs := by
  have hsigma : 'Σ' ∉ cs := by
    intro hmem
    exact absurd (hascii 'Σ' hmem) (by decide)
  rw [lower, lowerAfter_eq_flatMap hsigma]
  clear hsigma
  induction cs with
  | nil => rfl
  | cons c rest ih =>
      rw [List.forall_mem_cons] at hascii hlower
      rw [List.flatMap_cons, ih hascii.2 hlower.2, lowerChar, if_pos hascii.1, hlower.1]
      rfl

namespace Slug

variable {cs : List Char}

theorem IsWords.lower_eq (h : IsWords cs) : lower cs = cs := by
  apply lower_eq_self
  · intro c hc
    rcases h.chars c hc with hword | rfl
    · exact ascii_of_isWordChar hword
    · decide
  · intro c hc
    rcases h.chars c hc with hword | rfl
    · exact toLower_of_isWordChar hword
    · rfl

theorem IsWords.dropEndWhile_eq (h : IsWords cs) : dropEndWhile isHyphen cs = cs := by
  rw [dropEndWhile_eq_rdropWhile, List.rdropWhile_eq_self_iff]
  intro hne
  simp [not_isHyphen_of_isWordChar (h.last _ (List.getLast?_eq_some_getLast hne))]

theorem IsWords.squeeze_eq (h : IsWords cs) (joined : Bool) : squeeze joined cs = cs := by
  induction h generalizing joined with
  | single hc => rw [squeeze_cons_of_isWordChar [] hc, squeeze]
  | cons hc _ ih => rw [squeeze_cons_of_isWordChar _ hc, ih]
  | hyphen hc _ ih =>
      rw [squeeze_cons_of_isWordChar _ hc, squeeze_cons_of_separates _ (.inr rfl), ih]
      rfl

theorem IsWords.trimHyphens_eq (h : IsWords cs) : trimHyphens cs = cs := by
  have hfront : cs.dropWhile isHyphen = cs := by
    obtain ⟨c, rest, rfl⟩ := List.exists_cons_of_ne_nil h.ne_nil
    apply List.dropWhile_cons_of_neg
    simp [not_isHyphen_of_isWordChar (h.head c rfl)]
  rw [trimHyphens, hfront, h.dropEndWhile_eq]

theorem ne_empty_of_isValid {slug : String} (h : isValid slug = true) : slug ≠ "" := by
  rintro rfl
  exact absurd h (by decide)

theorem ofTitle_of_isValid {slug : String} (h : isValid slug = true) : ofTitle slug = slug := by
  obtain ⟨hwords, hlength⟩ := isValid_iff.mp h
  rw [← String.length_toList] at hlength
  rw [ofTitle, hwords.lower_eq, ofLower, hwords.squeeze_eq, hwords.trimHyphens_eq,
    List.take_of_length_le hlength, hwords.dropEndWhile_eq, String.ofList_toList]

theorem ofTitle_ofTitle (title : String) : ofTitle (ofTitle title) = ofTitle title := by
  by_cases h : ofTitle title = ""
  · rw [h]
    rfl
  · exact ofTitle_of_isValid (isValid_ofTitle h)

/-- A text is a valid slug if and only if it is not empty and the slug of a title, which is so if
and only if it is not empty and its own slug. -/
theorem isValid_iff_ofTitle :
    (∀ slug, isValid slug = true ↔ slug ≠ "" ∧ ∃ title, ofTitle title = slug) ∧
      (∀ slug, isValid slug = true ↔ slug ≠ "" ∧ ofTitle slug = slug) ∧
      ∀ title, ofTitle (ofTitle title) = ofTitle title := by
  refine ⟨?_, ?_, ofTitle_ofTitle⟩
  · intro slug
    constructor
    · intro h
      exact ⟨ne_empty_of_isValid h, slug, ofTitle_of_isValid h⟩
    · rintro ⟨hne, title, rfl⟩
      exact isValid_ofTitle hne
  · intro slug
    constructor
    · intro h
      exact ⟨ne_empty_of_isValid h, ofTitle_of_isValid h⟩
    · rintro ⟨hne, hslug⟩
      rw [← hslug] at hne ⊢
      exact isValid_ofTitle hne

end Slug

end Weblog
