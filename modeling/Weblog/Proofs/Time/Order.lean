import Mathlib.Data.String.Basic
import Weblog.Proofs.Time.Calendar
import Weblog.Time.Instant

/-!
Points in time in order. As long as years have four digits, and leap seconds left aside, the text
that the store keeps of a point in time comes before that of every later one.
-/

namespace Weblog.Instant

section

variable {cs ds front back : List Char}

theorem append_lt_append_of_lt (hlength : front.length = back.length) (h : front < back)
    (cs ds : List Char) : front ++ cs < back ++ ds := by
  induction front generalizing back with
  | nil =>
      obtain rfl := List.length_eq_zero_iff.mp hlength.symm
      exact absurd h (List.lt_irrefl [])
  | cons c front ih =>
      cases back with
      | nil => exact nomatch hlength
      | cons d back =>
          rw [List.cons_append, List.cons_append, List.cons_lt_cons_iff]
          rcases List.cons_lt_cons_iff.mp h with hcd | ⟨rfl, hrest⟩
          · exact .inl hcd
          · exact .inr ⟨rfl, ih (Nat.succ.inj hlength) hrest⟩

theorem append_lt_append_iff (front : List Char) : front ++ cs < front ++ ds ↔ cs < ds := by
  induction front with
  | nil => rfl
  | cons c front ih => rw [List.cons_append, List.cons_append, List.cons_lt_cons_self, ih]

end

/-- The last digits of a number, so many. -/
def lastDigits : (width : Nat) → Nat → List Char
  | 0, _ => []
  | width + 1, n => lastDigits width (n / 10) ++ [Nat.digitChar (n % 10)]

theorem length_lastDigits (width n : Nat) : (lastDigits width n).length = width := by
  induction width generalizing n with
  | zero => rfl
  | succ width ih => rw [lastDigits, List.length_append, ih, List.length_singleton]

theorem lastDigits_zero (width : Nat) : lastDigits width 0 = List.replicate width '0' := by
  induction width with
  | zero => rfl
  | succ width ih => rw [lastDigits, Nat.zero_div, ih, List.replicate_succ']; rfl

theorem padded_eq_lastDigits {width n : Nat} (hwidth : 0 < width) (hn : n < 10 ^ width) :
    padded width n = lastDigits width n := by
  induction width generalizing n with
  | zero => omega
  | succ width ih =>
      rw [padded, lastDigits, Nat.toDigits_eq_if (by decide)]
      by_cases hsmall : n < 10
      · have hzero : n / 10 = 0 := by omega
        have hmod : n % 10 = n := by omega
        simp only [if_pos hsmall, hzero, hmod, lastDigits_zero, List.length_singleton,
          Nat.add_sub_cancel]
      · -- all digits but the last are those of `n / 10`
        have hmore : n / 10 < 10 ^ width := by
          rw [Nat.pow_succ] at hn
          omega
        have hpos : 0 < width := by
          by_contra hnone
          obtain rfl : width = 0 := by omega
          omega
        have htail := ih hpos hmore
        rw [padded] at htail
        simp only [if_neg hsmall, List.length_append, List.length_singleton, Nat.add_sub_add_right]
        rw [← List.append_assoc, htail]

theorem digitChar_lt : ∀ m < 10, ∀ n < 10, m < n → Nat.digitChar m < Nat.digitChar n := by
  decide

theorem lastDigits_lt {width m n : Nat} (h : m < n) (hn : n < 10 ^ width) :
    lastDigits width m < lastDigits width n := by
  induction width generalizing m n with
  | zero => omega
  | succ width ih =>
      rw [Nat.pow_succ] at hn
      rw [lastDigits, lastDigits]
      rcases Nat.lt_or_eq_of_le (Nat.div_le_div_right (c := 10) (Nat.le_of_lt h)) with hless | hsame
      · refine append_lt_append_of_lt ?_ (ih hless (by omega)) _ _
        rw [length_lastDigits, length_lastDigits]
      · rw [hsame, append_lt_append_iff]
        refine List.cons_lt_cons_iff.mpr (.inl (digitChar_lt _ (by omega) _ (by omega) (by omega)))

theorem lastDigits_add (width more n : Nat) :
    lastDigits (width + more) n = lastDigits width (n / 10 ^ more) ++ lastDigits more n := by
  induction more generalizing n with
  | zero => rw [Nat.add_zero, Nat.pow_zero, Nat.div_one, lastDigits, List.append_nil]
  | succ more ih =>
      rw [← Nat.add_assoc, lastDigits, ih, Nat.div_div_eq_div_mul, ← Nat.pow_succ', lastDigits,
        List.append_assoc]

theorem padded_append_lt {width m n : Nat} {cs ds : List Char} (hwidth : 0 < width)
    (hm : m < 10 ^ width) (hn : n < 10 ^ width) (h : m < n ∨ m = n ∧ cs < ds) :
    padded width m ++ cs < padded width n ++ ds := by
  rw [padded_eq_lastDigits hwidth hm, padded_eq_lastDigits hwidth hn]
  rcases h with hless | ⟨rfl, hrest⟩
  · refine append_lt_append_of_lt ?_ (lastDigits_lt hless hn) _ _
    rw [length_lastDigits, length_lastDigits]
  · exact (append_lt_append_iff _).mpr hrest

theorem lastDigits_mod (width n : Nat) :
    lastDigits width (n % 10 ^ width) = lastDigits width n := by
  induction width generalizing n with
  | zero => rfl
  | succ width ih =>
      have hrest : n % 10 ^ (width + 1) / 10 = n / 10 % 10 ^ width := by
        rw [Nat.pow_succ', Nat.mod_mul_right_div_self]
      have hlast : n % 10 ^ (width + 1) % 10 = n % 10 :=
        Nat.mod_mod_of_dvd n ⟨10 ^ width, Nat.pow_succ'⟩
      rw [lastDigits, hrest, hlast, ih, lastDigits]

theorem plus_lt_lastDigits (width n : Nat) (cs ds : List Char) :
    '+' :: cs < lastDigits (width + 1) n ++ ds := by
  have hdigit : ∀ d < 10, '+' < Nat.digitChar d := by decide
  induction width generalizing n ds with
  | zero => exact List.cons_lt_cons_iff.mpr (.inl (hdigit _ (by omega)))
  | succ width ih =>
      rw [lastDigits, List.append_assoc]
      exact ih (n / 10) _

/-- Groups of three digits, without those at the end that are zero. -/
def grouped : List Nat → List Char
  | [] => []
  | g :: gs => if (g :: gs).all (· == 0) then [] else lastDigits 3 g ++ grouped gs

theorem all_eq_false_of_lt {gs hs : List Nat} (h : gs < hs) (hlength : gs.length = hs.length) :
    hs.all (· == 0) = false := by
  induction gs generalizing hs with
  | nil =>
      obtain rfl := List.length_eq_zero_iff.mp hlength.symm
      exact absurd h (List.lt_irrefl [])
  | cons g gs ih =>
      cases hs with
      | nil => exact nomatch hlength
      | cons g' hs =>
          rw [List.all_cons, Bool.and_eq_false_iff]
          rcases List.cons_lt_cons_iff.mp h with hless | ⟨-, hrest⟩
          · exact .inl (beq_false_of_ne (Nat.ne_of_gt (Nat.lt_of_le_of_lt (Nat.zero_le g) hless)))
          · exact .inr (ih hrest (Nat.succ.inj hlength))

theorem grouped_append_lt {gs hs : List Nat} (h : gs < hs) (hlength : gs.length = hs.length)
    (hhs : ∀ g ∈ hs, g < 1000) (cs : List Char) :
    grouped gs ++ '+' :: cs < grouped hs ++ '+' :: cs := by
  induction gs generalizing hs with
  | nil =>
      obtain rfl := List.length_eq_zero_iff.mp hlength.symm
      exact absurd h (List.lt_irrefl [])
  | cons g gs ih =>
      cases hs with
      | nil => exact nomatch hlength
      | cons g' hs =>
          have hsome := all_eq_false_of_lt h hlength
          obtain ⟨hg', hrests⟩ := List.forall_mem_cons.mp hhs
          rw [grouped, grouped, hsome]
          split
          · exact plus_lt_lastDigits 2 g' cs _ |>.trans_eq (List.append_assoc ..).symm
          · rw [if_neg Bool.false_ne_true, List.append_assoc, List.append_assoc]
            rcases List.cons_lt_cons_iff.mp h with hless | ⟨rfl, hrest⟩
            · refine append_lt_append_of_lt ?_ (lastDigits_lt hless hg') _ _
              rw [length_lastDigits, length_lastDigits]
            · exact (append_lt_append_iff _).mpr (ih hrest (Nat.succ.inj hlength) hrests)

theorem fractionChars_eq {n : Nat} (hn : n < 10 ^ 9) :
    fractionChars n =
      if n = 0 then [] else '.' :: grouped [n / 1000000, n / 1000 % 1000, n % 1000] := by
  have hmod : ∀ m, lastDigits 3 (m % 1000) = lastDigits 3 m := lastDigits_mod 3
  have hsix : ∀ m, lastDigits 6 m = lastDigits 3 (m / 1000) ++ lastDigits 3 (m % 1000) := by
    intro m
    rw [hmod]
    exact lastDigits_add 3 3 m
  have hnine : lastDigits 9 n =
      lastDigits 3 (n / 1000000) ++
        (lastDigits 3 (n / 1000 % 1000) ++ lastDigits 3 (n % 1000)) := by
    have hthree : lastDigits 9 n = lastDigits 6 (n / 1000) ++ lastDigits 3 n :=
      lastDigits_add 6 3 n
    rw [hthree, hsix, hmod n, List.append_assoc, Nat.div_div_eq_div_mul]
  rw [fractionChars]
  by_cases hzero : n = 0
  · rw [if_pos hzero, if_pos hzero]
  have hsome : ¬ ((n / 1000000 = 0 ∧ n / 1000 % 1000 = 0) ∧ n % 1000 = 0) := by omega
  rw [if_neg hzero, if_neg hzero]
  by_cases hmilli : n % 1000000 = 0
  · have hmiddle : n / 1000 % 1000 = 0 := by omega
    have hlast : n % 1000 = 0 := by omega
    have hfirst : n / 1000000 ≠ 0 := by omega
    have hbound : n / 1000000 < 10 ^ 3 := by omega
    rw [if_pos hmilli, padded_eq_lastDigits (by decide) hbound]
    simp [grouped, hmiddle, hlast, hfirst]
  rw [if_neg hmilli]
  by_cases hmicro : n % 1000 = 0
  · have hmiddle : n / 1000 % 1000 ≠ 0 := by omega
    have hbound : n / 1000 < 10 ^ 6 := by omega
    rw [if_pos hmicro, padded_eq_lastDigits (by decide) hbound, hsix, Nat.div_div_eq_div_mul]
    simp [grouped, hmiddle, hmicro]
  · rw [if_neg hmicro, padded_eq_lastDigits (by decide) hn, hnine]
    simp [grouped, hmicro]

theorem fractionChars_append_lt {m n : Nat} (h : m < n) (hn : n < 10 ^ 9) (cs : List Char) :
    fractionChars m ++ '+' :: cs < fractionChars n ++ '+' :: cs := by
  have hne : n ≠ 0 := by omega
  rw [fractionChars_eq hn, if_neg hne, fractionChars_eq (Nat.lt_trans h hn)]
  by_cases hm : m = 0
  · rw [if_pos hm]
    exact List.cons_lt_cons_iff.mpr (.inl (by decide))
  · rw [if_neg hm, List.cons_append, List.cons_append, List.cons_lt_cons_self]
    refine grouped_append_lt ?_ (by rfl) ?_ cs
    · simp only [List.cons_lt_cons_iff]
      omega
    · simp only [List.forall_mem_cons, List.not_mem_nil, false_implies, implies_true, and_true]
      omega

/-- The time has a year of four digits, and is no leap second. -/
structure IsDated (t : Instant) : Prop where
  year : 0 ≤ (Date.ofDays (t.seconds / secondsPerDay)).year ∧
    (Date.ofDays (t.seconds / secondsPerDay)).year ≤ 9999
  nanos : t.nanos < nanosPerSecond

instance (t : Instant) : Decidable t.IsDated :=
  decidable_of_iff (_ ∧ _) ⟨fun h => ⟨h.1, h.2⟩, fun h => ⟨h.1, h.2⟩⟩

/-- The first point in time comes before the second. -/
def Before (t t' : Instant) : Prop :=
  t.seconds < t'.seconds ∨ t.seconds = t'.seconds ∧ t.nanos < t'.nanos

instance (t t' : Instant) : Decidable (t.Before t') :=
  inferInstanceAs (Decidable (_ ∨ _))

/-- The parts of a date in a text, and what follows them. -/
def dateChars (date : Date) (rest : List Char) : List Char :=
  padded 4 date.year.toNat ++ '-' :: (padded 2 date.month.toNat ++ '-' ::
    (padded 2 date.day.toNat ++ 'T' :: rest))

/-- The parts of a time of day in a text, and what follows them. -/
def clockChars (second nanos : Nat) (rest : List Char) : List Char :=
  padded 2 (second / 3600) ++ ':' :: (padded 2 (second / 60 % 60) ++ ':' ::
    (padded 2 (second % 60) ++ (fractionChars nanos ++ rest)))

theorem IsDated.chars_eq {t : Instant} (h : t.IsDated) (zone : List Char) :
    t.chars zone = dateChars (Date.ofDays (t.seconds / 86400))
      (clockChars (t.seconds % 86400).toNat t.nanos zone) := by
  have hleap : ¬ nanosPerSecond ≤ t.nanos := Nat.not_le.mpr h.nanos
  have hyear := h.year
  rw [secondsPerDay] at hyear
  simp only [chars, yearChars, secondsPerDay, hyear, and_self, hleap, ↓reduceIte, Nat.add_zero,
    List.append_assoc, List.cons_append, dateChars, clockChars]

theorem part_lt {width m n : Nat} {cs ds : List Char} (mark : Char) (hwidth : 0 < width)
    (hm : m < 10 ^ width) (hn : n < 10 ^ width) (h : m < n ∨ m = n ∧ cs < ds) :
    padded width m ++ mark :: cs < padded width n ++ mark :: ds :=
  padded_append_lt hwidth hm hn (h.imp_right (And.imp_right List.cons_lt_cons_self.mpr))

theorem dateChars_lt {date date' : Date} (h : date.Before date')
    (hyear : 0 ≤ date.year ∧ date.year ≤ 9999) (hyear' : 0 ≤ date'.year ∧ date'.year ≤ 9999)
    (hdate : 1 ≤ date.month ∧ date.month ≤ 12 ∧ 1 ≤ date.day ∧ date.day ≤ 31)
    (hdate' : 1 ≤ date'.month ∧ date'.month ≤ 12 ∧ 1 ≤ date'.day ∧ date'.day ≤ 31)
    (cs ds : List Char) : dateChars date cs < dateChars date' ds := by
  refine part_lt '-' (by decide) (by omega) (by omega) ?_
  rcases h with hless | ⟨hsame, h⟩
  · exact .inl (by omega)
  refine .inr ⟨by omega, part_lt '-' (by decide) (by omega) (by omega) ?_⟩
  rcases h with hless | ⟨hsame, h⟩
  · exact .inl (by omega)
  · exact .inr ⟨by omega, part_lt 'T' (by decide) (by omega) (by omega) (.inl (by omega))⟩

theorem clockChars_lt {second second' nanos nanos' : Nat}
    (h : second < second' ∨ second = second' ∧ nanos < nanos') (hsecond : second < 86400)
    (hsecond' : second' < 86400) (hnanos' : nanos' < 10 ^ 9) (cs : List Char) :
    clockChars second nanos ('+' :: cs) < clockChars second' nanos' ('+' :: cs) := by
  rcases h with hless | ⟨rfl, hless⟩
  · refine part_lt ':' (by decide) (by omega) (by omega) ?_
    rcases Nat.lt_or_eq_of_le (Nat.div_le_div_right (c := 3600) (Nat.le_of_lt hless)) with h | h
    · exact .inl h
    refine .inr ⟨h, part_lt ':' (by decide) (by omega) (by omega) ?_⟩
    rcases Nat.lt_or_eq_of_le (Nat.div_le_div_right (c := 60) (Nat.le_of_lt hless)) with h | h
    · exact .inl (by omega)
    · exact .inr ⟨by omega, padded_append_lt (by decide) (by omega) (by omega) (.inl (by omega))⟩
  · refine (append_lt_append_iff _).mpr (List.cons_lt_cons_self.mpr ?_)
    refine (append_lt_append_iff _).mpr (List.cons_lt_cons_self.mpr ?_)
    exact (append_lt_append_iff _).mpr (fractionChars_append_lt hless hnanos' cs)

theorem storedText_lt {t t' : Instant} (ht : t.IsDated) (ht' : t'.IsDated) (h : t.Before t') :
    t.storedText < t'.storedText := by
  rw [storedText, storedText, String.lt_iff_toList_lt, String.toList_ofList, String.toList_ofList,
    ht.chars_eq, ht'.chars_eq]
  have hdays : t.seconds / 86400 < t'.seconds / 86400 ∨ t.seconds / 86400 = t'.seconds / 86400 ∧
      ((t.seconds % 86400).toNat < (t'.seconds % 86400).toNat ∨
        (t.seconds % 86400).toNat = (t'.seconds % 86400).toNat ∧ t.nanos < t'.nanos) := by
    rw [Before] at h
    omega
  rcases hdays with hless | ⟨hsame, hrest⟩
  · exact dateChars_lt (Date.ofDays_before hless) ht.year ht'.year (Date.ofDays_bounds _)
      (Date.ofDays_bounds _) _ _
  · rw [hsame, dateChars, dateChars, append_lt_append_iff, List.cons_lt_cons_self,
      append_lt_append_iff, List.cons_lt_cons_self, append_lt_append_iff, List.cons_lt_cons_self]
    exact clockChars_lt hrest (by omega) (by omega) ht'.nanos _

theorem before_trichotomy (t t' : Instant) : t.Before t' ∨ t = t' ∨ t'.Before t := by
  obtain ⟨seconds, nanos⟩ := t
  obtain ⟨seconds', nanos'⟩ := t'
  simp only [Before, Instant.mk.injEq]
  omega

theorem storedText_lt_iff {t t' : Instant} (ht : t.IsDated) (ht' : t'.IsDated) :
    t.storedText < t'.storedText ↔ t.Before t' := by
  refine ⟨fun hless => ?_, storedText_lt ht ht'⟩
  rcases before_trichotomy t t' with hbefore | rfl | hback
  · exact hbefore
  · exact absurd hless (lt_irrefl _)
  · exact absurd hless (lt_asymm (storedText_lt ht' ht hback))

theorem eq_of_storedText_eq {t t' : Instant} (ht : t.IsDated) (ht' : t'.IsDated)
    (h : t.storedText = t'.storedText) : t = t' := by
  rcases before_trichotomy t t' with hbefore | heq | hback
  · exact absurd h (ne_of_lt (storedText_lt ht ht' hbefore))
  · exact heq
  · exact absurd h.symm (ne_of_lt (storedText_lt ht' ht hback))

-- the year 10000 is written with a sign, which comes before the digits of the year 9999
example : (⟨253402300800, 0⟩ : Instant).storedText < (⟨253402300799, 0⟩ : Instant).storedText := by
  decide

end Weblog.Instant
