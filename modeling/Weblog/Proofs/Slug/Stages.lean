import Weblog.Proofs.Slug.Shape

/-!
The slug of a title in stages: each stage goes over the whole text, and the next one starts from
what it leaves. The single pass that makes slugs comes to the same for every title.
-/

namespace Weblog

open Weblog.Text

namespace Slug

/-- One hyphen in the place of each longest run of characters on which `p` holds. -/
def hyphenateRuns (p : Char → Bool) : List Char → List Char
  | [] => []
  | c :: rest =>
    if p c then '-' :: hyphenateRuns p (rest.dropWhile p) else c :: hyphenateRuns p rest
termination_by cs => cs.length
decreasing_by
  · exact Nat.lt_succ_of_le (List.length_dropWhile_le p rest)
  · exact Nat.lt_succ_self _

/-- A character that may stand in a slug. -/
def isSlugChar (c : Char) : Bool :=
  c.isLower || c.isDigit || c == '-'

/-- The text without a hyphen at its end. -/
def dropLastHyphen (cs : List Char) : List Char :=
  if cs.getLast? = some '-' then cs.dropLast else cs

/-- The slug of a title, stage by stage. -/
def ofTitleInStages (title : String) : String :=
  let lowered := lower title.toList
  let hyphenated := hyphenateRuns isBlank lowered
  let filtered := hyphenated.filter isSlugChar
  let collapsed := hyphenateRuns isHyphen filtered
  let trimmed := (collapsed.dropWhile isHyphen).rdropWhile isHyphen
  String.ofList (dropLastHyphen (trimmed.take 100))

section

variable {p : Char → Bool} {c : Char}

theorem hyphenateRuns_cons_of_pos (hc : p c = true) (rest : List Char) :
    hyphenateRuns p (c :: rest) = '-' :: hyphenateRuns p (rest.dropWhile p) := by
  rw [hyphenateRuns, if_pos hc]

theorem hyphenateRuns_cons_of_neg (hc : ¬ p c = true) (rest : List Char) :
    hyphenateRuns p (c :: rest) = c :: hyphenateRuns p rest := by
  rw [hyphenateRuns, if_neg hc]

theorem isSlugChar_iff : isSlugChar c = true ↔ isWordChar c = true ∨ isHyphen c = true := by
  rw [isSlugChar, Bool.or_eq_true]
  rfl

end

theorem squeeze_dropWhile_isBlank (cs : List Char) :
    squeeze true (cs.dropWhile isBlank) = squeeze true cs := by
  induction cs with
  | nil => rfl
  | cons c rest ih =>
      by_cases hc : isBlank c = true
      · rw [List.dropWhile_cons_of_pos hc, ih, squeeze_cons_of_separates rest (.inl hc), if_pos rfl]
      · rw [List.dropWhile_cons_of_neg hc]

/-- The single pass does the work of three stages, be it begun within a run of hyphens or not. -/
theorem squeeze_eq_hyphenateRuns (cs : List Char) :
    squeeze false cs = hyphenateRuns isHyphen ((hyphenateRuns isBlank cs).filter isSlugChar) ∧
      squeeze true cs = hyphenateRuns isHyphen
        (((hyphenateRuns isBlank cs).filter isSlugChar).dropWhile isHyphen) := by
  have hhyphen : isHyphen '-' = true := rfl
  have hslug : isSlugChar '-' = true := rfl
  -- a run of blanks is cut off at once in the stages and sign by sign in the pass, which is why
  -- both values of the flag are needed for the rest
  fun_induction hyphenateRuns isBlank cs with
  | case1 => simp [squeeze, hyphenateRuns]
  | case2 c rest hc ih =>
      rw [squeeze_dropWhile_isBlank] at ih
      rw [List.filter_cons_of_pos hslug, hyphenateRuns_cons_of_pos hhyphen,
        List.dropWhile_cons_of_pos hhyphen, ← ih.2, squeeze_cons_of_separates rest (.inl hc),
        squeeze_cons_of_separates rest (.inl hc)]
      exact ⟨rfl, rfl⟩
  | case3 c rest hc ih =>
      rcases word_or_separates_or_other c with hword | (hblank | hdash) | ⟨hword, hblank, hdash⟩
      · have hnot : ¬ isHyphen c = true := by simp [not_isHyphen_of_isWordChar hword]
        rw [List.filter_cons_of_pos (isSlugChar_iff.mpr (.inl hword)),
          List.dropWhile_cons_of_neg hnot, hyphenateRuns_cons_of_neg hnot, ← ih.1,
          squeeze_cons_of_isWordChar rest hword, squeeze_cons_of_isWordChar rest hword]
        exact ⟨rfl, rfl⟩
      · exact absurd hblank hc
      · obtain rfl := isHyphen_iff.mp hdash
        rw [List.filter_cons_of_pos hslug, hyphenateRuns_cons_of_pos hhyphen,
          List.dropWhile_cons_of_pos hhyphen, ← ih.2,
          squeeze_cons_of_separates rest (.inr hdash), squeeze_cons_of_separates rest (.inr hdash)]
        exact ⟨rfl, rfl⟩
      · have hout : ¬ isSlugChar c = true := by simp [isSlugChar_iff, hword, hdash]
        rw [List.filter_cons_of_neg hout, squeeze_cons_of_other rest hword hblank hdash,
          squeeze_cons_of_other rest hword hblank hdash]
        exact ih

theorem dropWhile_squeeze (cs : List Char) :
    (squeeze true cs).dropWhile isHyphen = (squeeze false cs).dropWhile isHyphen := by
  induction cs with
  | nil => rfl
  | cons c rest ih =>
      rcases word_or_separates_or_other c with hword | hsep | ⟨hword, hblank, hhyphen⟩
      · rw [squeeze_cons_of_isWordChar rest hword, squeeze_cons_of_isWordChar rest hword]
      · rw [squeeze_cons_of_separates rest hsep, squeeze_cons_of_separates rest hsep]
        rfl
      · rw [squeeze_cons_of_other rest hword hblank hhyphen,
          squeeze_cons_of_other rest hword hblank hhyphen]
        exact ih

theorem dropEndWhile_isHyphen {cs : List Char} (hcs : cs.IsChain Apart) :
    dropEndWhile isHyphen cs = dropLastHyphen cs := by
  rcases List.eq_nil_or_concat cs with rfl | ⟨front, c, rfl⟩
  · rfl
  rw [List.concat_eq_append] at hcs ⊢
  by_cases hc : isHyphen c = true
  · have hfront : front.rdropWhile isHyphen = front := by
      apply List.rdropWhile_eq_self_iff.mpr
      intro hne hlast
      exact hcs.rel_getLast_head_of_append hne (List.cons_ne_nil c []) ⟨hlast, hc⟩
    rw [dropEndWhile_concat, if_pos hc, dropEndWhile_eq_rdropWhile, hfront, dropLastHyphen,
      if_pos (by simp [isHyphen_iff.mp hc]), List.dropLast_concat]
  · rw [dropEndWhile_concat, if_neg hc, dropLastHyphen,
      if_neg (by simpa [← isHyphen_iff] using hc)]

/-- The slug of a title is what the stages make of it. -/
theorem ofTitle_eq_ofTitleInStages (title : String) : ofTitle title = ofTitleInStages title := by
  let body := (squeeze false (lower title.toList)).dropWhile isHyphen
  have hbody : body.IsChain Apart :=
    (squeeze_apart false (lower title.toList)).1.suffix (List.dropWhile_suffix _)
  have htrimmed : (body.rdropWhile isHyphen).IsChain Apart := by
    rw [← List.rdropWhile_append_rtakeWhile (p := isHyphen) (l := body)] at hbody
    exact hbody.left_of_append
  rw [ofTitle, ofTitleInStages, ofLower, trimHyphens, dropWhile_squeeze,
    dropEndWhile_eq_rdropWhile _ (List.dropWhile _ _), dropEndWhile_isHyphen (htrimmed.take _),
    ← (squeeze_eq_hyphenateRuns _).1]
  rfl

end Slug

end Weblog
