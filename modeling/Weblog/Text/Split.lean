namespace Weblog.Text

/-- The parts between the separators `a`; without a separator, the whole list. -/
def splitAt [DecidableEq α] (a : α) : List α → List (List α)
  | [] => [[]]
  | b :: rest =>
    if b = a then [] :: splitAt a rest
    else
      match splitAt a rest with
      | [] => [[b]]
      | part :: parts => (b :: part) :: parts

/-- What stands before the first separator and after it, if there is one. -/
def splitFirst? [DecidableEq α] (a : α) : List α → Option (List α × List α)
  | [] => none
  | b :: rest =>
    if b = a then some ([], rest)
    else (splitFirst? a rest).map fun (before, after) => (b :: before, after)

/-- What stands before the last separator and after it, if there is one. -/
def splitLast? [DecidableEq α] (a : α) (l : List α) : Option (List α × List α) :=
  (splitFirst? a l.reverse).map fun (after, before) => (before.reverse, after.reverse)

theorem takeWhile_append {p : α → Bool} {run rest : List α} (hrun : ∀ a ∈ run, p a = true)
    (hrest : ∀ a ∈ rest.head?, p a = false) :
    (run ++ rest).takeWhile p = run ∧ (run ++ rest).dropWhile p = rest := by
  have hstop : rest.takeWhile p = [] ∧ rest.dropWhile p = rest := by
    cases rest with
    | nil => exact ⟨rfl, rfl⟩
    | cons a rest =>
      have ha : ¬ p a = true := by rw [hrest a rfl]; exact Bool.false_ne_true
      exact ⟨List.takeWhile_cons_of_neg ha, List.dropWhile_cons_of_neg ha⟩
  rw [List.takeWhile_append_of_pos hrun, List.dropWhile_append_of_pos hrun, hstop.1, hstop.2,
    List.append_nil]
  exact ⟨rfl, rfl⟩

end Weblog.Text
