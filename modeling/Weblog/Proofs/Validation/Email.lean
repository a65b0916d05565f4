import Weblog.Proofs.Text.Split
import Weblog.Proofs.Validation

/-!
The grammar of email addresses. The dot that ends the host of an address may also stand within the
host, so the rule for addresses could be met in several ways; but two letters without a dot come
last, so it is met at the only sign and at the last dot, or nowhere.
-/

namespace Weblog

open Text

/-- The sign is the only one; the host ends at the last dot. -/
structure IsSplit (cs mailbox host ending : List Char) : Prop where
  count_sign : cs.count '@' = 1
  at_sign : splitFirst? '@' cs = some (mailbox, host ++ '.' :: ending)
  at_last_dot : splitLast? '.' (host ++ '.' :: ending) = some (host, ending)

/-- What may stand in each part of an email address in lowercase. -/
structure IsAddress (mailbox host ending : List Char) : Prop where
  mailbox_ne_nil : mailbox ≠ []
  mailbox_chars : ∀ c ∈ mailbox,
    'a' ≤ c ∧ c ≤ 'z' ∨ '0' ≤ c ∧ c ≤ '9' ∨ c ∈ ['.', '_', '%', '+', '-']
  host_ne_nil : host ≠ []
  host_chars : ∀ c ∈ host, 'a' ≤ c ∧ c ≤ 'z' ∨ '0' ≤ c ∧ c ≤ '9' ∨ c ∈ ['.', '-']
  two_le_ending : 2 ≤ ending.length
  ending_chars : ∀ c ∈ ending, 'a' ≤ c ∧ c ≤ 'z'

variable {cs mailbox host ending : List Char}

theorem isMailboxChar_iff {c : Char} :
    isMailboxChar c = true ↔
      'a' ≤ c ∧ c ≤ 'z' ∨ '0' ≤ c ∧ c ≤ '9' ∨ c ∈ ['.', '_', '%', '+', '-'] := by
  simp only [isMailboxChar, Bool.or_eq_true, beq_iff_eq, isLower_iff, isDigit_iff, or_assoc,
    List.mem_cons, List.not_mem_nil, or_false]

theorem isHostChar_iff {c : Char} :
    isHostChar c = true ↔ 'a' ≤ c ∧ c ≤ 'z' ∨ '0' ≤ c ∧ c ≤ '9' ∨ c ∈ ['.', '-'] := by
  simp only [isHostChar, Bool.or_eq_true, beq_iff_eq, isLower_iff, isDigit_iff, or_assoc,
    List.mem_cons, List.not_mem_nil, or_false]

theorem fits_ending_iff :
    Pattern.fits ([.one (· == '.'), .one Char.isLower] ++ oneOrMore Char.isLower) cs = true ↔
      ∃ ending, cs = '.' :: ending ∧ 2 ≤ ending.length ∧ ∀ c ∈ ending, 'a' ≤ c ∧ c ≤ 'z' := by
  rw [List.cons_append, List.singleton_append, fits_one_iff]
  constructor
  · rintro ⟨_, rest, rfl, hdot, hrest⟩
    obtain rfl := beq_iff_eq.mp hdot
    obtain ⟨c, rest, rfl, hc, hrest⟩ := fits_one_iff.mp hrest
    rw [← List.append_nil (oneOrMore Char.isLower), fits_oneOrMore_append_iff] at hrest
    obtain ⟨taken, left, rfl, hne, htaken, hleft⟩ := hrest
    obtain rfl : left = [] := by simpa [Pattern.fits] using hleft
    refine ⟨_, rfl, ?_, ?_⟩
    · have hpos := List.length_pos_of_ne_nil hne
      rw [List.length_cons, List.append_nil]
      omega
    · simpa [← isLower_iff] using ⟨hc, htaken⟩
  · rintro ⟨ending, rfl, hlength, hchars⟩
    obtain _ | ⟨c, _ | ⟨d, ending⟩⟩ := ending
    · simp at hlength
    · simp at hlength
    · simp only [← isLower_iff, List.forall_mem_cons] at hchars
      refine ⟨'.', _, rfl, rfl, fits_one_iff.mpr ⟨c, _, rfl, hchars.1, ?_⟩⟩
      rw [← List.append_nil (oneOrMore Char.isLower), fits_oneOrMore_append_iff]
      refine ⟨d :: ending, [], (List.append_nil _).symm, List.cons_ne_nil d ending, ?_, rfl⟩
      simpa using hchars.2

/-- The pattern fits a text that consists of the parts of an address, in whatever way. -/
theorem fits_emailPattern_iff :
    emailPattern.fits cs = true ↔
      ∃ mailbox host ending, cs = mailbox ++ '@' :: (host ++ '.' :: ending) ∧
        IsAddress mailbox host ending := by
  rw [emailPattern, List.append_assoc, List.append_assoc, List.append_assoc,
    fits_oneOrMore_append_iff]
  constructor
  · rintro ⟨mailbox, rest, rfl, hmailbox, hmailboxChars, hrest⟩
    obtain ⟨_, rest, rfl, hsign, hrest⟩ := fits_one_iff.mp hrest
    obtain rfl := beq_iff_eq.mp hsign
    obtain ⟨host, rest, rfl, hhost, hhostChars, hrest⟩ := fits_oneOrMore_append_iff.mp hrest
    obtain ⟨ending, rfl, hlength, hending⟩ := fits_ending_iff.mp hrest
    refine ⟨mailbox, host, ending, rfl, hmailbox, ?_, hhost, ?_, hlength, hending⟩
    · intro c hc
      exact isMailboxChar_iff.mp (hmailboxChars c hc)
    · intro c hc
      exact isHostChar_iff.mp (hhostChars c hc)
  · rintro ⟨mailbox, host, ending, rfl, h⟩
    refine ⟨mailbox, _, rfl, h.mailbox_ne_nil, ?_, fits_one_iff.mpr ⟨'@', _, rfl, rfl, ?_⟩⟩
    · intro c hc
      exact isMailboxChar_iff.mpr (h.mailbox_chars c hc)
    · apply fits_oneOrMore_append_iff.mpr
      refine ⟨host, _, rfl, h.host_ne_nil, ?_, fits_ending_iff.mpr ⟨ending, rfl, ?_⟩⟩
      · intro c hc
        exact isHostChar_iff.mpr (h.host_chars c hc)
      · exact ⟨h.two_le_ending, h.ending_chars⟩

namespace IsAddress

theorem sign_notMem_mailbox (h : IsAddress mailbox host ending) : '@' ∉ mailbox := by
  intro hmem
  exact absurd (h.mailbox_chars '@' hmem) (by decide)

theorem sign_notMem_domain (h : IsAddress mailbox host ending) :
    '@' ∉ host ++ '.' :: ending := by
  simp only [List.mem_append, List.mem_cons, not_or]
  refine ⟨?_, by decide, ?_⟩
  · intro hmem
    exact absurd (h.host_chars '@' hmem) (by decide)
  · intro hmem
    exact absurd (h.ending_chars '@' hmem) (by decide)

theorem dot_notMem_ending (h : IsAddress mailbox host ending) : '.' ∉ ending := by
  intro hmem
  exact absurd (h.ending_chars '.' hmem) (by decide)

theorem eq_iff_isSplit (h : IsAddress mailbox host ending) :
    cs = mailbox ++ '@' :: (host ++ '.' :: ending) ↔ IsSplit cs mailbox host ending := by
  constructor
  · rintro rfl
    refine ⟨?_, splitFirst?_append h.sign_notMem_mailbox _, splitLast?_append h.dot_notMem_ending _⟩
    rw [List.count_append, List.count_cons_self,
      List.count_eq_zero_of_not_mem h.sign_notMem_mailbox,
      List.count_eq_zero_of_not_mem h.sign_notMem_domain]
  · intro hsplit
    exact (splitFirst?_eq_some_iff.mp hsplit.at_sign).1

end IsAddress

theorem isEmail_iff_exists_isSplit {email : String} :
    isEmail email = true ↔ ∃ mailbox host ending,
      IsSplit (lower email.toList) mailbox host ending ∧ IsAddress mailbox host ending := by
  rw [isEmail, fits_emailPattern_iff]
  constructor
  · rintro ⟨mailbox, host, ending, heq, h⟩
    exact ⟨mailbox, host, ending, h.eq_iff_isSplit.mp heq, h⟩
  · rintro ⟨mailbox, host, ending, hsplit, h⟩
    exact ⟨mailbox, host, ending, h.eq_iff_isSplit.mpr hsplit, h⟩

/-- An email address is accepted exactly if its lowercase form, split at its only sign and at the
last dot behind it, has the parts of an address; and no other way to meet the pattern exists. -/
theorem isEmail_iff_isAddress (email : String) :
    (isEmail email = true ↔ ∃ mailbox host ending,
      IsSplit (lower email.toList) mailbox host ending ∧ IsAddress mailbox host ending) ∧
    ∀ mailbox host ending,
      (lower email.toList = mailbox ++ '@' :: (host ++ '.' :: ending) ∧
          IsAddress mailbox host ending ↔
        IsSplit (lower email.toList) mailbox host ending ∧ IsAddress mailbox host ending) := by
  constructor
  · exact isEmail_iff_exists_isSplit
  · intro mailbox host ending
    exact and_congr_left fun h => h.eq_iff_isSplit

end Weblog
