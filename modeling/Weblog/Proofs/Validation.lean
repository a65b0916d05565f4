import Weblog.Payload
import Weblog.Proofs.Text.Case

namespace Weblog

open Text

/-- Between 3 and 50 letters, digits and underscores of ASCII. -/
structure ValidUsername (username : String) : Prop where
  length_ge : 3 ≤ username.length
  length_le : username.length ≤ 50
  chars : ∀ c ∈ username.toList,
    'A' ≤ c ∧ c ≤ 'Z' ∨ 'a' ≤ c ∧ c ≤ 'z' ∨ '0' ≤ c ∧ c ≤ '9' ∨ c = '_'

/-- Not only blanks, and at most `most` characters. -/
structure ValidText (most : ℕ) (text : String) : Prop where
  not_blank : ∃ c ∈ text.toList, isBlank c = false
  length_le : text.length ≤ most

theorem isLower_iff {c : Char} : c.isLower = true ↔ 'a' ≤ c ∧ c ≤ 'z' :=
  Bool.and_eq_true_iff.trans (and_congr decide_eq_true_iff decide_eq_true_iff)

theorem isDigit_iff {c : Char} : c.isDigit = true ↔ '0' ≤ c ∧ c ≤ '9' :=
  Bool.and_eq_true_iff.trans (and_congr decide_eq_true_iff decide_eq_true_iff)

theorem isAlphanum_iff {c : Char} :
    c.isAlphanum = true ↔
      ('A' ≤ c ∧ c ≤ 'Z' ∨ 'a' ≤ c ∧ c ≤ 'z') ∨ '0' ≤ c ∧ c ≤ '9' := by
  have hupper : c.isUpper = true ↔ 'A' ≤ c ∧ c ≤ 'Z' := decide_eq_true_iff
  have halpha : c.isAlpha = true ↔ c.isUpper = true ∨ c.isLower = true := Bool.or_eq_true_iff
  rw [← hupper, ← isLower_iff, ← isDigit_iff, ← halpha]
  exact Bool.or_eq_true_iff

theorem isUsernameChar_iff {c : Char} :
    isUsernameChar c = true ↔
      'A' ≤ c ∧ c ≤ 'Z' ∨ 'a' ≤ c ∧ c ≤ 'z' ∨ '0' ≤ c ∧ c ≤ '9' ∨ c = '_' := by
  rw [isUsernameChar, Bool.or_eq_true, isAlphanum_iff, beq_iff_eq, or_assoc, or_assoc]

theorem isUsername_iff {username : String} :
    isUsername username = true ↔
      username.toList ≠ [] ∧ ∀ c ∈ username.toList, isUsernameChar c = true := by
  rw [isUsername, ← List.append_nil (oneOrMore isUsernameChar), fits_oneOrMore_append_iff]
  constructor
  · rintro ⟨taken, rest, hcs, hne, htaken, hrest⟩
    obtain rfl : rest = [] := by simpa [Pattern.fits] using hrest
    rw [hcs, List.append_nil]
    exact ⟨hne, htaken⟩
  · rintro ⟨hne, hall⟩
    exact ⟨_, [], (List.append_nil _).symm, hne, hall, rfl⟩

theorem ite_some_eq_none_iff {p : Prop} [Decidable p] {a : α} {rest : Option α} :
    (if p then some a else rest) = none ↔ ¬ p ∧ rest = none := by
  split <;> simp_all

theorem usernameFault_eq_none_iff {username : String} :
    usernameFault username = none ↔ ValidUsername username := by
  simp only [usernameFault, ite_some_eq_none_iff, Bool.not_eq_true, Bool.not_eq_false',
    isUsername_iff, Nat.not_lt, gt_iff_lt, and_true]
  constructor
  · rintro ⟨-, hleast, hmost, -, hchars⟩
    exact ⟨hleast, hmost, fun c hc => isUsernameChar_iff.mp (hchars c hc)⟩
  · rintro ⟨hleast, hmost, hchars⟩
    have hne : username.toList ≠ [] := by
      intro hnil
      rw [← String.length_toList, hnil] at hleast
      exact absurd hleast (by decide)
    refine ⟨?_, hleast, hmost, hne, fun c hc => isUsernameChar_iff.mpr (hchars c hc)⟩
    rw [← Bool.not_eq_true, String.isEmpty_iff]
    rintro rfl
    exact hne rfl

theorem isAllBlank_eq_false_iff {cs : List Char} :
    isAllBlank cs = false ↔ ∃ c ∈ cs, isBlank c = false := by
  rw [isAllBlank, List.all_eq_false]
  simp only [Bool.not_eq_true]

theorem lengthFault_eq_none_iff {most : ℕ} {text : String} :
    lengthFault most text = none ↔ text.length ≤ most := by
  simp only [lengthFault, ite_some_eq_none_iff, gt_iff_lt, Nat.not_lt, and_true]

theorem textFault_eq_none_iff {most : ℕ} {text : String} :
    textFault most text = none ↔ ValidText most text := by
  simp only [textFault, ite_some_eq_none_iff, Bool.not_eq_true, isAllBlank_eq_false_iff,
    gt_iff_lt, Nat.not_lt, and_true]
  constructor
  · rintro ⟨-, hblank, hmost⟩
    exact ⟨hblank, hmost⟩
  · rintro ⟨hblank, hmost⟩
    refine ⟨?_, hblank, hmost⟩
    obtain ⟨c, hc, -⟩ := hblank
    rw [← Bool.not_eq_true, String.isEmpty_iff]
    rintro rfl
    exact nomatch hc

theorem replacementFault_eq_none_iff {most : ℕ} {text : String} :
    replacementFault most text = none ↔ ValidText most text := by
  simp only [replacementFault, ite_some_eq_none_iff, Bool.not_eq_true, isAllBlank_eq_false_iff,
    textFault_eq_none_iff]
  exact and_iff_right_of_imp ValidText.not_blank

theorem violations_eq_nil_iff {verdicts : List (String × Option Fault)} :
    violations verdicts = [] ↔ ∀ verdict ∈ verdicts, verdict.2 = none := by
  rw [violations, List.filterMap_eq_nil_iff]
  constructor
  · rintro h ⟨field, fault⟩ hmem
    exact Option.map_eq_none_iff.mp (h _ hmem)
  · rintro h ⟨field, fault⟩ hmem
    exact Option.map_eq_none_iff.mpr (h _ hmem)

theorem Registration.violations_eq_nil_iff {r : Registration} :
    r.violations = [] ↔
      ValidUsername r.username ∧ isEmail r.email = true ∧ passwordFault r.password = none := by
  rw [violations, Weblog.violations_eq_nil_iff]
  simp only [List.forall_mem_cons, List.not_mem_nil, false_implies, implies_true, and_true,
    usernameFault_eq_none_iff, emailFault_eq_none_iff]

theorem AccountChanges.isEmpty_iff {c : AccountChanges} :
    c.isEmpty = true ↔ c = ⟨none, none, none, none, none⟩ := by
  obtain ⟨username, email, password, bio, image⟩ := c
  simp [isEmpty, and_assoc]

theorem AccountChanges.violations_eq_nil_iff {c : AccountChanges} :
    c.violations = [] ↔ (∀ username ∈ c.username, ValidUsername username) ∧
      (∀ email ∈ c.email, isEmail email = true) ∧
      (∀ password ∈ c.password, passwordFault password = none) ∧
      ∀ bio ∈ c.bio, bio.length ≤ 500 := by
  rw [violations, Weblog.violations_eq_nil_iff]
  simp only [List.forall_mem_cons, List.not_mem_nil, false_implies, implies_true, and_true,
    Option.bind_eq_none_iff, usernameFault_eq_none_iff, emailFault_eq_none_iff,
    lengthFault_eq_none_iff]
  rfl

theorem ArticleDraft.violations_eq_nil_iff {a : ArticleDraft} :
    a.violations = [] ↔
      ValidText 200 a.title ∧ ValidText 500 a.description ∧ ValidText 10000 a.body := by
  rw [violations, Weblog.violations_eq_nil_iff]
  simp only [List.forall_mem_cons, List.not_mem_nil, false_implies, implies_true, and_true,
    textFault_eq_none_iff]
  rfl

theorem ArticleChanges.isEmpty_iff {c : ArticleChanges} :
    c.isEmpty = true ↔ c = ⟨none, none, none⟩ := by
  obtain ⟨title, description, body⟩ := c
  simp [isEmpty, and_assoc]

theorem ArticleChanges.violations_eq_nil_iff {c : ArticleChanges} :
    c.violations = [] ↔ (∀ title ∈ c.title, ValidText 200 title) ∧
      (∀ description ∈ c.description, ValidText 500 description) ∧
      ∀ body ∈ c.body, ValidText 10000 body := by
  rw [violations, Weblog.violations_eq_nil_iff]
  simp only [List.forall_mem_cons, List.not_mem_nil, false_implies, implies_true, and_true,
    Option.bind_eq_none_iff, replacementFault_eq_none_iff]
  rfl

theorem CommentDraft.violations_eq_nil_iff {c : CommentDraft} :
    c.violations = [] ↔ ValidText 10000 c.body := by
  rw [violations, Weblog.violations_eq_nil_iff]
  simp only [List.forall_mem_cons, List.not_mem_nil, false_implies, implies_true, and_true,
    textFault_eq_none_iff]
  rfl

end Weblog
