import Mathlib.Data.List.TakeWhile
import Weblog.Schema.Script

namespace Weblog

open Text

namespace Text

theorem linesFrom_append (cs line rest : List Char) :
    linesFrom line (cs ++ '\n' :: rest) = linesFrom line (cs ++ ['\n']) ++ linesFrom [] rest := by
  induction cs generalizing line with
  | nil => rfl
  | cons c cs ih =>
      simp only [List.cons_append, linesFrom]
      split
      · rw [ih, List.cons_append]
      · exact ih (c :: line)

/-- A text that is nothing or ends with its last line. -/
def EndsLine (cs : List Char) : Prop :=
  cs = [] ∨ ∃ front, cs = front ++ ['\n']

theorem lines_append {cs : List Char} (hcs : EndsLine cs) (rest : List Char) :
    lines (cs ++ rest) = lines cs ++ lines rest := by
  rcases hcs with rfl | ⟨front, rfl⟩
  · rfl
  · rw [List.append_assoc]
    exact linesFrom_append front [] rest

theorem linesFrom_of_notMem {cs : List Char} (hcs : '\n' ∉ cs) (line rest : List Char) :
    linesFrom line (cs ++ rest) = linesFrom (cs.reverse ++ line) rest := by
  induction cs generalizing line with
  | nil => rfl
  | cons c cs ih =>
      rw [List.mem_cons, not_or] at hcs
      rw [List.cons_append, linesFrom, if_neg (Ne.symm hcs.1), ih hcs.2, List.reverse_cons,
        List.append_assoc, List.singleton_append]

theorem dropEndWhile_append_singleton {p : α → Bool} {b : α} (hb : p b = true) (l : List α) :
    dropEndWhile p (l ++ [b]) = dropEndWhile p l := by
  induction l with
  | nil => simp [dropEndWhile, hb]
  | cons a l ih => simp only [List.cons_append, dropEndWhile, ih]

theorem trim_append_singleton {b : Char} (hb : isBlank b = true) (cs : List Char) :
    trim (cs ++ [b]) = trim cs := by
  rw [trim, trim, List.dropWhile_append]
  split
  · rename_i hnone
    simp [List.isEmpty_iff.mp hnone, hb]
  · exact dropEndWhile_append_singleton hb _

theorem trim_endLine (cs : List Char) : trim (endLine cs.reverse) = trim cs := by
  cases hcs : cs.reverse with
  | nil => rw [List.reverse_eq_nil_iff.mp hcs]; rfl
  | cons c line =>
      have hsplit : cs = line.reverse ++ [c] := by
        rw [← List.reverse_cons, ← hcs, List.reverse_reverse]
      by_cases hc : c = '\r'
      · rw [hsplit, hc, endLine, trim_append_singleton (by decide)]
      · rw [endLine, hsplit, List.reverse_cons]
        intro _ h
        exact hc (List.cons.inj h).1

theorem exists_lines_eq_cons {cs rest : List Char} (hcs : '\n' ∉ cs) (hne : cs ≠ [])
    (hrest : rest = [] ∨ rest.head? = some '\n') :
    ∃ line more, lines (cs ++ rest) = line :: more ∧ trim line = trim cs := by
  rw [lines, linesFrom_of_notMem hcs, List.append_nil]
  rcases hrest with rfl | hhead
  · refine ⟨cs, [], ?_, rfl⟩
    rw [linesFrom, if_neg, List.reverse_reverse]
    simpa using hne
  · obtain ⟨more, rfl⟩ : ∃ more, rest = '\n' :: more := by
      cases rest with
      | nil => exact nomatch hhead
      | cons c more => exact ⟨more, by rw [Option.some.inj hhead]⟩
    exact ⟨endLine cs.reverse, linesFrom [] more, if_pos rfl, trim_endLine cs⟩

end Text

namespace Schema

variable {ls front rest : List (List Char)} {line : List Char}

/-- The lines that a script shows: those before the first one that opens the section to leave
out. -/
def shown (script : String) : List (List Char) :=
  (lines script.toList).takeWhile fun line => trim line != downMarker

theorem downMarker_ne_upMarker : downMarker ≠ upMarker := by decide

theorem downMarker_ne_nil : downMarker ≠ [] := by decide

theorem upLines_append_down (hline : trim line = downMarker) (opened : Bool)
    (front rest : List (List Char)) :
    upLines opened (front ++ line :: rest) = upLines opened front := by
  induction front generalizing opened with
  | nil =>
      have hup : trim line ≠ upMarker := hline.trans_ne downMarker_ne_upMarker
      simp only [List.nil_append, upLines, if_neg hup, if_pos hline]
  | cons other front ih => simp only [List.cons_append, upLines, ih]

theorem upLines_takeWhile (opened : Bool) (ls : List (List Char)) :
    upLines opened (ls.takeWhile fun line => trim line != downMarker) = upLines opened ls := by
  induction ls generalizing opened with
  | nil => rfl
  | cons line ls ih =>
      by_cases hline : trim line = downMarker
      · rw [List.takeWhile_cons_of_neg (by simpa using hline)]
        exact (upLines_append_down hline opened [] ls).symm
      · rw [List.takeWhile_cons_of_pos (by simpa using hline)]
        simp only [upLines, ih]

theorem upLines_closed (hls : ∀ line ∈ ls, trim line ≠ upMarker) : upLines false ls = [] := by
  induction ls with
  | nil => rfl
  | cons line ls ih =>
      obtain ⟨hline, hls⟩ := List.forall_mem_cons.mp hls
      simp [upLines, hline, ih hls]

theorem upLines_opened (hls : ∀ line ∈ ls, trim line ≠ downMarker) :
    upLines true ls = ls.filter fun line => !isComment line := by
  -- the line that opens the section is itself a comment, so it makes no difference to meet it again
  have hmarker : ∀ {line}, trim line = upMarker → isComment line = true := by
    intro line hline
    rw [isComment, hline]
    decide
  induction ls with
  | nil => rfl
  | cons line ls ih =>
      obtain ⟨hline, hls⟩ := List.forall_mem_cons.mp hls
      rw [upLines, List.filter_cons, ih hls, if_neg hline]
      by_cases hup : trim line = upMarker
      · simp [hup, hmarker hup]
      · simp [hup]

theorem upLines_append_up (hfront : ∀ line ∈ front, trim line ≠ upMarker)
    (hshown : ∀ line ∈ front, trim line ≠ downMarker) (hline : trim line = upMarker)
    (rest : List (List Char)) : upLines false (front ++ line :: rest) = upLines true rest := by
  induction front with
  | nil => rw [List.nil_append, upLines, if_pos hline]
  | cons other front ih =>
      obtain ⟨hother, hfront⟩ := List.forall_mem_cons.mp hfront
      obtain ⟨hother', hshown⟩ := List.forall_mem_cons.mp hshown
      simp [upLines, hother, hother', ih hfront hshown]

theorem exists_first_up (hls : ∃ line ∈ ls, trim line = upMarker) :
    ∃ front opening body, ls = front ++ opening :: body ∧ trim opening = upMarker ∧
      ∀ line ∈ front, trim line ≠ upMarker := by
  induction ls with
  | nil => exact absurd hls (by simp)
  | cons line ls ih =>
      by_cases hline : trim line = upMarker
      · exact ⟨[], line, ls, rfl, hline, by simp⟩
      · obtain ⟨front, opening, body, rfl, hopening, hfront⟩ :=
          ih (by simpa [hline] using hls)
        exact ⟨line :: front, opening, body, rfl, hopening, by simpa [hline] using hfront⟩

theorem upSection_eq_shown (script : String) :
    upSection script = String.ofList (trim (joinLines (upLines false (shown script)))) := by
  rw [shown, upLines_takeWhile, upSection]

theorem isComment_iff {line : List Char} :
    isComment line = true ↔ ['-', '-'] <+: trim line := by
  rw [isComment, beq_iff_eq, List.prefix_iff_eq_take]
  exact eq_comm

/-- Where no section to run is opened, nothing is run. Otherwise the lines that are shown after the
first one that opens it are run, without comments. A line that opens the section to leave out, and
what follows it, might as well not be there. -/
theorem upSection_exact (script : String) :
    ((∀ line ∈ shown script, trim line ≠ upMarker) → upSection script = "") ∧
    ((∃ line ∈ shown script, trim line = upMarker) → ∃ front opening body,
      shown script = front ++ opening :: body ∧ trim opening = upMarker ∧
      (∀ line ∈ front, trim line ≠ upMarker) ∧
      upSection script = String.ofList (trim (joinLines
        (body.filter fun line => ¬ ['-', '-'] <+: trim line)))) ∧
    ∀ before line after : List Char, script.toList = before ++ line ++ after → EndsLine before →
      '\n' ∉ line → (after = [] ∨ after.head? = some '\n') → trim line = downMarker →
      upSection script = upSection (String.ofList before) := by
  refine ⟨?_, ?_, ?_⟩
  · intro hnone
    rw [upSection_eq_shown, upLines_closed hnone]
    rfl
  · intro hsome
    obtain ⟨front, opening, body, hsplit, hopening, hfront⟩ := exists_first_up hsome
    have hshown : ∀ line ∈ front ++ opening :: body, trim line ≠ downMarker := by
      intro line hline
      rw [← hsplit] at hline
      simpa using List.mem_takeWhile_imp hline
    obtain ⟨hbefore, hafter⟩ := List.forall_mem_append.mp hshown
    refine ⟨front, opening, body, hsplit, hopening, hfront, ?_⟩
    rw [upSection_eq_shown, hsplit, upLines_append_up hfront hbefore hopening,
      upLines_opened (List.forall_mem_cons.mp hafter).2]
    simp only [← isComment_iff, Bool.not_eq_true, Bool.decide_eq_false]
  · intro before line after hscript hends hfeed hend hdown
    have hne : line ≠ [] := by
      rintro rfl
      exact downMarker_ne_nil hdown.symm
    obtain ⟨first, more, hlines, hfirst⟩ := exists_lines_eq_cons hfeed hne hend
    rw [upSection, upSection, hscript, List.append_assoc, lines_append hends, hlines,
      upLines_append_down (hfirst.trans hdown), String.toList_ofList]

namespace Sample

/-- A table is made, with a note and a blank before the line that opens the section. -/
def makesTable : List Char :=
  "CREATE TABLE b;\r\n -- +migrate Up\r\n-- note\r\nCREATE TABLE a;\r\n".toList

/-- The table is dropped, in a section to leave out, and in one to run that comes too late. -/
def dropsTable : List Char :=
  "\nDROP TABLE a;\n-- +migrate Up\nDROP TABLE a;".toList

end Sample

open Sample in
theorem upSection_exact_dropped :
    let line := downMarker ++ ['\r']
    let script := String.ofList (makesTable ++ line ++ dropsTable)
    (∃ line ∈ shown script, trim line = upMarker) ∧ EndsLine makesTable ∧ '\n' ∉ line ∧
      upSection script = "CREATE TABLE a;" ∧
      (∃ body : List (List Char), upSection script = String.ofList (trim (joinLines
        (body.filter fun line => ¬ ['-', '-'] <+: trim line)))) ∧
      (∀ line ∈ shown "DROP TABLE a;", trim line ≠ upMarker) ∧ upSection "DROP TABLE a;" = "" := by
  intro line script
  have hscript : script.toList = makesTable ++ line ++ dropsTable := String.toList_ofList
  have hopened : ∃ line ∈ shown script, trim line = upMarker := by
    rw [shown, hscript]
    decide
  have hends : EndsLine makesTable :=
    .inr ⟨"CREATE TABLE b;\r\n -- +migrate Up\r\n-- note\r\nCREATE TABLE a;\r".toList,
      by decide⟩
  have hfeed : '\n' ∉ line := by decide
  have hnone : ∀ line ∈ shown "DROP TABLE a;", trim line ≠ upMarker := by decide
  obtain ⟨front, opening, body, -, -, -, hbody⟩ := (upSection_exact script).2.1 hopened
  have hnothing := (upSection_exact "DROP TABLE a;").1 hnone
  refine ⟨hopened, hends, hfeed, ?_, ⟨body, hbody⟩, hnone, hnothing⟩
  rw [(upSection_exact script).2.2 makesTable line dropsTable hscript hends hfeed
    (.inr (by decide)) (by decide)]
  decide

end Schema

end Weblog
