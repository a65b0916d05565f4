import Mathlib.Data.List.Basic
import Weblog.Domain.Name
import Weblog.Proofs.Text.Ascii
import Weblog.Proofs.Text.Lowercase

/-!
What the tables of characters say about ASCII, and about letters in both cases. A table is read
once, from its characters, and all that is asked of it is asked of the entries.
-/

namespace Weblog.Domain

open Weblog.Text

variable {lines : List String} {chars : List (List Char)} {table : List Entry} {c : Char}

/-- The strings are spelled out. -/
inductive Spelled : List String → List (List Char) → Prop
  | nil : Spelled [] []
  | cons {lines : List String} {chars : List (List Char)} (line : List Char) :
      Spelled lines chars → Spelled (String.ofList line :: lines) (line :: chars)

/-- The entries that lines of characters write. -/
def readChars (lines : List (List Char)) : List Entry :=
  lines.flatMap fun line => (splitAt ' ' line).map Entry.ofWord

theorem Spelled.readTable (h : Spelled lines chars) : readTable lines = readChars chars := by
  induction h with
  | nil => rfl
  | cons line _ ih =>
      simp only [Domain.readTable, readChars, List.flatMap_cons, String.toList_ofList] at ih ⊢
      rw [ih]

theorem Spelled.check (check : List Entry → Bool) (h : Spelled lines chars)
    (hcheck : check (readChars chars) = true) : check (Domain.readTable lines) = true := by
  rw [h.readTable, hcheck]

theorem Spelled.check_both {lines' : List String} {chars' : List (List Char)}
    (check : List Entry → List Entry → Bool) (h : Spelled lines chars) (h' : Spelled lines' chars')
    (hcheck : check (readChars chars) (readChars chars') = true) :
    check (Domain.readTable lines) (Domain.readTable lines') = true := by
  rw [h.readTable, h'.readTable, hcheck]

/-- No entry of the table begins in ASCII. -/
def isBeyondAscii (table : List Entry) : Bool :=
  table.all fun e => Nat.ble 0x80 e.first

theorem holds_eq_false (htable : isBeyondAscii table = true) (hc : c.toNat < 0x80) :
    ∀ e ∈ table, e.holds c = false := by
  intro e he
  have hfirst := Nat.le_of_ble_eq_true (List.all_eq_true.mp htable e he)
  have hnot : ¬ e.first ≤ c.toNat := by omega
  simp [Entry.holds, hnot]

theorem isIn_eq_false (htable : isBeyondAscii table = true) (hc : c.toNat < 0x80) :
    isIn table c = false := by
  rw [isIn, List.any_eq_false]
  intro e he
  simp [holds_eq_false htable hc e he]

set_option maxRecDepth 2000 in
theorem markClasses_beyondAscii : isBeyondAscii markClasses = true := by
  apply Spelled.check
  · rw [markClassText]
    repeat constructor
  · decide +kernel

set_option maxRecDepth 2000 in
theorem marks_beyondAscii : isBeyondAscii (readTable markText) = true := by
  apply Spelled.check
  · rw [markText]
    repeat constructor
  · decide +kernel

/-- The characters that the entries compose, with the two that compose them. -/
def compositionsIn (table : List Entry) : List (Char × Char × Char) :=
  table.filterMap fun e =>
    match e.image with
    | [a, b] => some (Char.ofNat e.first, Char.ofNat a, Char.ofNat b)
    | _ => none

set_option maxRecDepth 2000 in
theorem compositions_beyondAscii :
    ∀ e ∈ compositions, 0x80 ≤ e.1.toNat ∧ 0x80 ≤ e.2.2.toNat := by
  have hall : ((compositionsIn (readTable compositionText)).all fun e =>
      Nat.ble 0x80 e.1.toNat && Nat.ble 0x80 e.2.2.toNat) = true := by
    apply Spelled.check fun table => (compositionsIn table).all _
    · rw [compositionText]
      repeat constructor
    · decide +kernel
  intro e he
  have hthis := List.all_eq_true.mp hall e he
  rw [Bool.and_eq_true] at hthis
  exact ⟨Nat.le_of_ble_eq_true hthis.1, Nat.le_of_ble_eq_true hthis.2⟩

set_option maxRecDepth 2000 in
theorem isIn_numberTable_of_isDigit (hc : c.isDigit = true) : isIn numberTable c = true := by
  have hall : (List.range' 0x30 10).all (fun n => isIn numberTable (Char.ofNat n)) = true := by
    apply Spelled.check fun table => (List.range' 0x30 10).all fun n => isIn table (Char.ofNat n)
    · rw [europeanNumberText]
      repeat constructor
    · decide +kernel
  have hbounds := toNat_of_isDigit hc
  have hmem : c.toNat ∈ List.range' 0x30 10 := List.mem_range'_1.mpr (by omega)
  have hthis := List.all_eq_true.mp hall _ hmem
  rwa [Char.ofNat_toNat] at hthis

/-- What a character becomes by the two tables. -/
def mapBy (mapping known : List Entry) (c : Char) : Option (List Char) :=
  if c.toNat < 0x80 then some [c.toLower]
  else if isIn known c then
    match mapping.find? (·.holds c) with
    | some e => some (e.imageOf c)
    | none => some [c]
  else none

/-- The entries that do not end before `n`, in a table that is in order. -/
def endingFrom (n : Nat) (table : List Entry) : List Entry :=
  table.dropWhile fun e => Nat.blt e.last n

/-- The entries that may hold one of the characters from `first` to `last`, in a table that is
in order. -/
def window (table : List Entry) (first last : Nat) : List Entry :=
  (endingFrom first table).takeWhile fun e => Nat.ble e.first last

/-- The table is in order from `n` on. -/
def isOrdered (n : Nat) : List Entry → Bool
  | [] => true
  | e :: rest => Nat.ble n e.first && isOrdered e.first rest

theorem pairwise_of_isOrdered {n : Nat} (h : isOrdered n table = true) :
    (∀ e ∈ table, n ≤ e.first) ∧ table.Pairwise (·.first ≤ ·.first) := by
  induction table generalizing n with
  | nil => simp
  | cons e table ih =>
      rw [isOrdered, Bool.and_eq_true] at h
      obtain ⟨hleast, hpairwise⟩ := ih h.2
      have hn := Nat.le_of_ble_eq_true h.1
      refine ⟨?_, List.pairwise_cons.mpr ⟨hleast, hpairwise⟩⟩
      rintro e' he'
      rcases List.mem_cons.mp he' with rfl | he'
      · exact hn
      · exact Nat.le_trans hn (hleast e' he')

/-- What is left of a table in order, for the characters from `n` on. -/
structure IsRest (n : Nat) (rest table : List Entry) : Prop where
  ordered : rest.Pairwise (·.first ≤ ·.first)
  find : ∀ c : Char, n ≤ c.toNat → rest.find? (·.holds c) = table.find? (·.holds c)

theorem isRest_self (h : isOrdered 0 table = true) : IsRest 0 table table :=
  ⟨(pairwise_of_isOrdered h).2, fun _ _ => rfl⟩

theorem find?_endingFrom {n : Nat} (hn : n ≤ c.toNat) (table : List Entry) :
    (endingFrom n table).find? (·.holds c) = table.find? (·.holds c) := by
  rw [endingFrom]
  induction table with
  | nil => rfl
  | cons e table ih =>
      rw [List.dropWhile_cons]
      split
      · rename_i hless
        have hless : e.last < n := Nat.le_of_ble_eq_true hless
        have hholds : ¬ e.holds c = true := by
          simp only [Entry.holds, Bool.and_eq_true, decide_eq_true_eq]
          omega
        rw [ih, List.find?_cons_of_neg (p := fun e : Entry => e.holds c) hholds]
      · rfl

theorem find?_takeWhile {last : Nat} (htable : table.Pairwise (·.first ≤ ·.first))
    (hlast : c.toNat ≤ last) : (table.takeWhile fun e => Nat.ble e.first last).find? (·.holds c) =
      table.find? (·.holds c) := by
  induction table with
  | nil => rfl
  | cons e table ih =>
      obtain ⟨hleast, hpairwise⟩ := List.pairwise_cons.mp htable
      rw [List.takeWhile_cons]
      split
      · rw [List.find?_cons, List.find?_cons, ih hpairwise]
      · rename_i hmore
        have hmore : ¬ e.first ≤ last := fun hle => hmore (Nat.ble_eq_true_of_le hle)
        refine (List.find?_eq_none.mpr ?_).symm
        intro e' he'
        have hle : e.first ≤ e'.first := by
          rcases List.mem_cons.mp he' with rfl | he'
          · exact Nat.le_refl _
          · exact hleast e' he'
        simp only [Entry.holds, Bool.and_eq_true, decide_eq_true_eq]
        omega

namespace IsRest

variable {n m : Nat} {rest : List Entry}

theorem endingFrom (h : IsRest n rest table) (hm : n ≤ m) :
    IsRest m (Domain.endingFrom m rest) table := by
  refine ⟨h.ordered.sublist (List.dropWhile_sublist _), ?_⟩
  intro c hc
  rw [find?_endingFrom hc, h.find c (Nat.le_trans hm hc)]

theorem find?_window {first last : Nat} (h : IsRest n rest table) (hn : n ≤ first)
    (hfirst : first ≤ c.toNat) (hlast : c.toNat ≤ last) :
    (window rest first last).find? (·.holds c) = table.find? (·.holds c) := by
  obtain ⟨hordered, hfind⟩ := h.endingFrom hn
  rw [window, find?_takeWhile hordered hlast, hfind c hfirst]

end IsRest

theorem isIn_eq_find? (table : List Entry) (c : Char) :
    isIn table c = (table.find? (·.holds c)).isSome := by
  rw [isIn, Bool.eq_iff_iff, List.any_eq_true, List.find?_isSome]

theorem mapBy_window {n first last : Nat} {mapping known rest rest' : List Entry}
    (hmapping : IsRest n rest mapping) (hknown : IsRest n rest' known) (hn : n ≤ first)
    (hfirst : first ≤ c.toNat) (hlast : c.toNat ≤ last) :
    mapBy (window rest first last) (window rest' first last) c = mapBy mapping known c := by
  simp only [mapBy, isIn_eq_find?, hmapping.find?_window hn hfirst hlast,
    hknown.find?_window hn hfirst hlast]

/-- What is left of two tables says that each letter of the run becomes what its lowercase form
becomes. The first two are for the letters, and the others for the forms. -/
def followsRun (mapping known mapping' known' : List Entry) (run : CaseRun) : Bool :=
  let upper := mapBy (window mapping run.first run.last) (window known run.first run.last)
  let lower := mapBy (window mapping' run.image (run.lower run.last))
    (window known' run.image (run.lower run.last))
  (List.range' run.first ((run.last - run.first) / run.step + 1) run.step).all fun n =>
    upper (Char.ofNat n) == lower (Char.ofNat (run.lower n))

/-- The runs come in order, so that each is looked up in what the one before has left. -/
def followsRuns (mapping known : List Entry) :
    Nat → List Entry → List Entry → List CaseRun → Bool
  | _, _, _, [] => true
  | n, restMapping, restKnown, run :: runs =>
    let restMapping := endingFrom run.first restMapping
    let restKnown := endingFrom run.first restKnown
    Nat.ble n run.first &&
      (if Nat.ble run.first run.image then
        followsRun restMapping restKnown restMapping restKnown run
      else followsRun restMapping restKnown mapping known run) &&
      followsRuns mapping known run.first restMapping restKnown runs

/-- A character becomes the characters of the text, if the part of the table that is about it
says so. -/
def becomes (mapping known : List Entry) (c : Char) (cs : List Char) : Bool :=
  mapBy (window mapping c.toNat c.toNat) (window known c.toNat c.toNat) c == some cs

/-- The two tables make no difference between a letter and its lowercase form. -/
def ignoresCase (mapping known : List Entry) : Bool :=
  (isOrdered 0 mapping && isOrdered 0 known) && followsRuns mapping known 0 mapping known caseRuns &&
    becomes mapping known dottedI ['i', '\u0307'] && becomes mapping known '\u0307' ['\u0307']

set_option maxRecDepth 2000 in
theorem tables_ignoreCase : ignoresCase mapping known = true := by
  rw [mapping, known]
  apply Spelled.check_both
  · rw [mappingText]
    repeat constructor
  · rw [knownText]
    repeat constructor
  · decide +kernel

theorem mapChar?_of_becomes {cs : List Char} (hmapping : IsRest 0 mapping mapping)
    (hknown : IsRest 0 known known) (h : becomes mapping known c cs = true) :
    mapChar? c = some cs := by
  rw [becomes, mapBy_window hmapping hknown (Nat.zero_le _) (Nat.le_refl _) (Nat.le_refl _),
    beq_iff_eq] at h
  exact h

section

variable {n : Nat} {mapping known rest rest' : List Entry} {run : CaseRun}

theorem of_followsRun {m : Nat} {restForms restForms' : List Entry} (hrun : run ∈ caseRuns)
    (hrest : IsRest n rest mapping) (hrest' : IsRest n rest' known) (hn : n ≤ run.first)
    (hforms : IsRest m restForms mapping) (hforms' : IsRest m restForms' known)
    (hm : m ≤ run.image) (h : followsRun rest rest' restForms restForms' run = true)
    (hholds : run.holds c.toNat = true) :
    mapBy mapping known (Char.ofNat (run.lower c.toNat)) = mapBy mapping known c := by
  have hbounds := bounds_of_holds hholds
  have hcode := toNat_lower hrun hholds
  simp only [followsRun, List.all_eq_true, List.mem_range', beq_iff_eq] at h
  have hthis := h c.toNat ?_
  · rw [Char.ofNat_toNat, mapBy_window hrest hrest' hn hbounds.1 hbounds.2,
      mapBy_window hforms hforms' hm] at hthis
    · exact hthis.symm
    · rw [hcode, CaseRun.lower]
      omega
    · rw [hcode, CaseRun.lower, CaseRun.lower]
      omega
  · simp only [CaseRun.holds, Bool.and_eq_true, beq_iff_eq] at hholds
    refine ⟨(c.toNat - run.first) / run.step, ?_, ?_⟩
    · exact Nat.lt_succ_of_le (Nat.div_le_div_right (by omega))
    · rw [Nat.mul_div_cancel' (Nat.dvd_of_mod_eq_zero hholds.2)]
      omega

theorem of_followsRuns {runs : List CaseRun} (hruns : ∀ run ∈ runs, run ∈ caseRuns)
    (hmapping : IsRest 0 mapping mapping) (hknown : IsRest 0 known known)
    (hrest : IsRest n rest mapping) (hrest' : IsRest n rest' known)
    (h : followsRuns mapping known n rest rest' runs = true) :
    ∀ run ∈ runs, ∀ c : Char, run.holds c.toNat = true →
      mapBy mapping known (Char.ofNat (run.lower c.toNat)) = mapBy mapping known c := by
  -- the runs are in order, so that what is left of the tables is enough for all further ones
  induction runs generalizing n rest rest' with
  | nil => exact fun run hrun => nomatch hrun
  | cons run runs ih =>
      simp only [followsRuns, Bool.and_eq_true] at h
      obtain ⟨⟨hn, hfollows⟩, hothers⟩ := h
      have hn := Nat.le_of_ble_eq_true hn
      obtain ⟨hrun, hruns⟩ := List.forall_mem_cons.mp hruns
      have hleft := hrest.endingFrom hn
      have hleft' := hrest'.endingFrom hn
      refine List.forall_mem_cons.mpr ⟨?_, ih hruns hleft hleft' hothers⟩
      intro c hholds
      split at hfollows
      · rename_i himage
        exact of_followsRun hrun hleft hleft' (Nat.le_refl _) hleft hleft'
          (Nat.le_of_ble_eq_true himage) hfollows hholds
      · exact of_followsRun hrun hleft hleft' (Nat.le_refl _) hmapping hknown (Nat.zero_le _)
          hfollows hholds

end

theorem mapM_mapChar?_lowerChar (c : Char) :
    ((lowerChar c).mapM mapChar?).map List.flatten = mapChar? c := by
  have hsame : ∀ d, mapChar? d = mapChar? c →
      ([d].mapM mapChar?).map List.flatten = mapChar? c := by
    intro d hd
    rw [List.mapM_cons, List.mapM_nil, hd]
    cases mapChar? c <;> simp
  have hignores := tables_ignoreCase
  simp only [ignoresCase, Bool.and_eq_true] at hignores
  obtain ⟨⟨⟨⟨hmapping, hknown⟩, hruns⟩, hdotted⟩, hdot⟩ := hignores
  have hmapping := isRest_self hmapping
  have hknown := isRest_self hknown
  by_cases hc : c.toNat < 0x80
  · rw [lowerChar, if_pos hc]
    apply hsame
    rcases toLower_cases c with hsame | ⟨-, hmost, hlower⟩
    · rw [hsame]
    · have hlow : c.toLower.toNat < 0x80 := by omega
      rw [mapChar?, mapChar?, if_pos hc, if_pos hlow, toLower_toLower]
  rcases lowerChar_of_notAscii (Nat.le_of_not_lt hc) with rfl | hlower | ⟨run, hrun, hholds, hlower⟩
  · have hi : mapChar? 'i' = some ['i'] := rfl
    rw [lowerChar_dottedI, List.mapM_cons, List.mapM_cons, List.mapM_nil, hi,
      mapChar?_of_becomes hmapping hknown hdot, mapChar?_of_becomes hmapping hknown hdotted]
    rfl
  · rw [hlower]
    exact hsame c rfl
  · rw [hlower]
    exact hsame _ (of_followsRuns (fun _ => id) hmapping hknown hmapping hknown hruns run hrun c hholds)

end Weblog.Domain
