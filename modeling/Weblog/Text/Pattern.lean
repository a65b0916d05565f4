namespace Weblog.Text

/-- One place of a pattern. -/
inductive Item where
  /-- Exactly one character of the class. -/
  | one (p : Char → Bool)
  /-- Any number of characters of the class, none included. -/
  | many (p : Char → Bool)

abbrev Pattern := List Item

/-- Some characters of the class `p` can be taken off the front so that `k` accepts the rest. -/
def manyThen (p : Char → Bool) (k : List Char → Bool) : List Char → Bool
  | [] => k []
  | c :: rest => k (c :: rest) || (p c && manyThen p k rest)

/-- The pattern accounts for the whole text. -/
def Pattern.fits : Pattern → List Char → Bool
  | [], cs => cs.isEmpty
  | .one p :: items, cs =>
    match cs with
    | [] => false
    | c :: rest => p c && Pattern.fits items rest
  | .many p :: items, cs => manyThen p (Pattern.fits items) cs

/-- One or more characters of the class. -/
def oneOrMore (p : Char → Bool) : Pattern := [.one p, .many p]

theorem manyThen_iff {p : Char → Bool} {k : List Char → Bool} {cs : List Char} :
    manyThen p k cs = true ↔
      ∃ taken rest, cs = taken ++ rest ∧ (∀ c ∈ taken, p c = true) ∧ k rest = true := by
  induction cs with
  | nil =>
    constructor
    · exact fun h => ⟨[], [], rfl, by simp, h⟩
    · rintro ⟨taken, rest, h, -, hk⟩
      obtain ⟨rfl, rfl⟩ := List.append_eq_nil_iff.1 h.symm
      exact hk
  | cons c cs ih =>
    rw [manyThen, Bool.or_eq_true, Bool.and_eq_true, ih]
    constructor
    · rintro (hk | ⟨hc, taken, rest, rfl, ht, hk⟩)
      · exact ⟨[], c :: cs, rfl, by simp, hk⟩
      · exact ⟨c :: taken, rest, rfl, by simpa [hc] using ht, hk⟩
    · rintro ⟨taken, rest, h, ht, hk⟩
      cases taken with
      | nil => exact .inl (by simpa [h] using hk)
      | cons d taken =>
        obtain ⟨rfl, rfl⟩ := List.cons.inj h
        exact .inr ⟨ht c (by simp), taken, rest, rfl, fun x hx => ht x (by simp [hx]), hk⟩

theorem fits_one_iff {p : Char → Bool} {items : Pattern} {cs : List Char} :
    Pattern.fits (.one p :: items) cs = true ↔
      ∃ c rest, cs = c :: rest ∧ p c = true ∧ items.fits rest = true := by
  cases cs with
  | nil => simp [Pattern.fits]
  | cons c rest => simp [Pattern.fits, and_assoc]

theorem fits_many_iff {p : Char → Bool} {items : Pattern} {cs : List Char} :
    Pattern.fits (.many p :: items) cs = true ↔
      ∃ taken rest, cs = taken ++ rest ∧ (∀ c ∈ taken, p c = true) ∧ items.fits rest = true :=
  manyThen_iff

theorem fits_oneOrMore_append_iff {p : Char → Bool} {items : Pattern} {cs : List Char} :
    Pattern.fits (oneOrMore p ++ items) cs = true ↔
      ∃ taken rest, cs = taken ++ rest ∧ taken ≠ [] ∧ (∀ c ∈ taken, p c = true) ∧
        items.fits rest = true := by
  rw [oneOrMore, List.cons_append, List.singleton_append, fits_one_iff]
  constructor
  · rintro ⟨c, cs, rfl, hc, hcs⟩
    obtain ⟨taken, rest, rfl, htaken, hrest⟩ := fits_many_iff.1 hcs
    exact ⟨c :: taken, rest, rfl, List.cons_ne_nil c taken, by simpa [hc] using htaken, hrest⟩
  · rintro ⟨taken, rest, rfl, hne, htaken, hrest⟩
    cases taken with
    | nil => exact absurd rfl hne
    | cons c taken =>
      rw [List.forall_mem_cons] at htaken
      exact ⟨c, taken ++ rest, rfl, htaken.1, fits_many_iff.2 ⟨taken, rest, rfl, htaken.2, hrest⟩⟩

end Weblog.Text
