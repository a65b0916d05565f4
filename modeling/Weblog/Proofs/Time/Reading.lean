import Weblog.Proofs.Time.Order
import Weblog.Text.Split

namespace Weblog.Instant

open Text

variable {rest : List Char}

/-- What follows does not carry a number on. -/
def EndsNumber (rest : List Char) : Prop :=
  ∀ c ∈ rest.head?, c.isDigit = false

theorem endsNumber_cons {c : Char} (hc : c.isDigit = false) (rest : List Char) :
    EndsNumber (c :: rest) := by
  rintro _ ⟨⟩
  exact hc

theorem takeWhile_isDigit_take {ds : List Char} (hds : ∀ c ∈ ds, c.isDigit = true)
    (hrest : EndsNumber rest) {most : Nat} (hmost : ds.length ≤ most) :
    ((ds ++ rest).take most).takeWhile Char.isDigit = ds := by
  have hcut : EndsNumber (rest.take (most - ds.length)) := by
    intro c hc
    rw [List.head?_take] at hc
    split at hc
    · exact nomatch hc
    · exact hrest c hc
  rw [List.take_append, List.take_of_length_le hmost, (takeWhile_append hds hcut).1]

theorem isDigit_of_mem_padded {width n : Nat} {c : Char} (hc : c ∈ padded width n) :
    c.isDigit = true := by
  rw [padded, List.mem_append] at hc
  rcases hc with hc | hc
  · rw [List.eq_of_mem_replicate hc]
    rfl
  · exact Nat.isDigit_of_mem_toDigits (by decide) (by decide) hc

theorem length_padded {width n : Nat} (hwidth : 0 < width) (hn : n < 10 ^ width) :
    (padded width n).length = width := by
  rw [padded_eq_lastDigits hwidth hn, length_lastDigits]

theorem padded_ne_nil (width n : Nat) : padded width n ≠ [] := by
  rw [padded]
  exact List.append_ne_nil_of_right_ne_nil _ Nat.toDigits_ne_nil

theorem ofDigitChars_padded (width n : Nat) : ofDigitChars (padded width n) = n := by
  have hzeros : ∀ k, (List.replicate k '0').foldl (fun n c => n * 10 + digitOf c) 0 = 0 := by
    intro k
    induction k with
    | zero => rfl
    | succ k ih => rw [List.replicate_succ, List.foldl_cons]; exact ih
  have hvalue : ∀ (cs : List Char) (n : Nat),
      cs.foldl (fun n c => n * 10 + digitOf c) n = Nat.ofDigitChars 10 cs n := by
    intro cs
    induction cs with
    | nil => exact fun _ => rfl
    | cons c cs ih =>
        intro n
        rw [List.foldl_cons, ih, Nat.ofDigitChars_cons, Nat.mul_comm]
        rfl
  rw [ofDigitChars, padded, List.foldl_append, hzeros, hvalue, Nat.ofDigitChars_ten_toDigits]

theorem isBlank_of_isDigit {c : Char} (hc : c.isDigit = true) : isBlank c = false := by
  have hcodes : ∀ n < 58, 48 ≤ n → blankCodes.contains n = false := by decide
  have hbounds : (decide (c.val ≥ '0'.val) && decide (c.val ≤ '9'.val)) = true := hc
  simp only [Bool.and_eq_true, decide_eq_true_eq, ge_iff_le, UInt32.le_iff_toNat_le] at hbounds
  exact hcodes c.toNat (Nat.lt_succ_of_le hbounds.2) hbounds.1

theorem skipBlanks_cons {c : Char} (hc : isBlank c = false) (rest : List Char) :
    skipBlanks (c :: rest) = c :: rest := by
  rw [skipBlanks, List.dropWhile_cons_of_neg (by rw [hc]; exact Bool.false_ne_true)]

theorem exists_padded_eq_cons (width n : Nat) :
    ∃ d ds, padded width n = d :: ds ∧ d.isDigit = true := by
  obtain ⟨d, ds, hds⟩ := List.exists_cons_of_ne_nil (padded_ne_nil width n)
  exact ⟨d, ds, hds, isDigit_of_mem_padded (hds ▸ List.mem_cons_self)⟩

theorem skipBlanks_padded (width n : Nat) (rest : List Char) :
    skipBlanks (padded width n ++ rest) = padded width n ++ rest := by
  obtain ⟨d, ds, hds, hd⟩ := exists_padded_eq_cons width n
  rw [hds, List.cons_append, skipBlanks_cons (isBlank_of_isDigit hd)]

theorem number?_padded {width n most : Nat} (hmost : (padded width n).length ≤ most)
    (hrest : EndsNumber rest) : number? most (padded width n ++ rest) = some (n, rest) := by
  have htake := takeWhile_isDigit_take (fun _ => isDigit_of_mem_padded) hrest hmost
  have hempty : (padded width n).isEmpty = false :=
    List.isEmpty_eq_false_iff.mpr (padded_ne_nil width n)
  rw [number?, htake]
  simp only [hempty, Bool.false_eq_true, if_false, ofDigitChars_padded, List.drop_left]

theorem mark?_cons {c : Char} (hc : isBlank c = false) (rest : List Char) :
    mark? c (c :: rest) = some rest := by
  rw [mark?, skipBlanks_cons hc]
  exact if_pos rfl

theorem twoDigits?_padded {n : Nat} (hn : n < 100) (hrest : EndsNumber rest) :
    twoDigits? (padded 2 n ++ rest) = some (n, rest) := by
  rw [twoDigits?, skipBlanks_padded]
  exact number?_padded (Nat.le_of_eq (length_padded (by decide) hn)) hrest

theorem twoDigits?_padded_cons {n : Nat} (hn : n < 100) {c : Char} (hc : c.isDigit = false)
    (rest : List Char) : twoDigits? (padded 2 n ++ c :: rest) = some (n, c :: rest) :=
  twoDigits?_padded hn (endsNumber_cons hc rest)

theorem year?_cons {d : Char} (hd : d.isDigit = true) (cs : List Char) :
    year? (d :: cs) = (number? 4 (d :: cs)).map fun (n, rest) => (Int.ofNat n, rest) := by
  rw [year?, skipBlanks_cons (isBlank_of_isDigit hd)]
  split
  · rename_i heq
    rw [List.head_eq_of_cons_eq heq] at hd
    exact nomatch hd
  · rename_i heq
    rw [List.head_eq_of_cons_eq heq] at hd
    exact nomatch hd
  · rfl

theorem year?_yearChars (year : Int) (hrest : EndsNumber rest) :
    year? (yearChars year ++ rest) = some (year, rest) := by
  have hsigned : number? (padded 4 year.natAbs ++ rest).length (padded 4 year.natAbs ++ rest) =
      some (year.natAbs, rest) := by
    refine number?_padded ?_ hrest
    rw [List.length_append]
    exact Nat.le_add_right _ _
  rw [yearChars]
  split
  · rename_i hfour
    have hlength : (padded 4 year.toNat).length = 4 := length_padded (by decide) (by omega)
    have hread := number?_padded (Nat.le_of_eq hlength) hrest
    obtain ⟨d, ds, hds, hd⟩ := exists_padded_eq_cons 4 year.toNat
    have hyear : Int.ofNat year.toNat = year := Int.toNat_of_nonneg hfour.1
    rw [hds, List.cons_append] at hread ⊢
    rw [year?_cons hd, hread]
    simp only [Option.map_some, hyear]
  · split
    · rename_i hneg
      have hminus : skipBlanks ('-' :: (padded 4 year.natAbs ++ rest)) =
          '-' :: (padded 4 year.natAbs ++ rest) := skipBlanks_cons (by decide) _
      have hyear : -Int.ofNat year.natAbs = year := by
        rw [Int.ofNat_eq_natCast]
        omega
      rw [List.cons_append, year?, hminus]
      simp only [hsigned, Option.map_some, hyear]
    · have hplus : skipBlanks ('+' :: (padded 4 year.natAbs ++ rest)) =
          '+' :: (padded 4 year.natAbs ++ rest) := skipBlanks_cons (by decide) _
      have hyear : Int.ofNat year.natAbs = year := by
        rw [Int.ofNat_eq_natCast]
        omega
      rw [List.cons_append, year?, hplus]
      simp only [hsigned, Option.map_some, hyear]

theorem fraction?_padded {width n : Nat} (hwidth : 0 < width) (hmost : width ≤ 9)
    (hn : n < 10 ^ width) (hrest : EndsNumber rest) :
    fraction? ('.' :: (padded width n ++ rest)) = some (n * Nat.pow 10 (9 - width), rest) := by
  have hlength := length_padded hwidth hn
  have htake := takeWhile_isDigit_take (fun _ => isDigit_of_mem_padded) hrest
    (Nat.le_trans (Nat.le_of_eq hlength) hmost)
  have hdrop : (padded width n ++ rest).dropWhile Char.isDigit = rest :=
    (takeWhile_append (fun _ => isDigit_of_mem_padded) hrest).2
  have hempty : (padded width n).isEmpty = false :=
    List.isEmpty_eq_false_iff.mpr (padded_ne_nil width n)
  rw [fraction?]
  simp only [htake, hempty, Bool.false_eq_true, if_false, ofDigitChars_padded, hlength, hdrop]

theorem endsNumber_fractionChars (nanos : Nat) (hrest : EndsNumber rest) :
    EndsNumber (fractionChars nanos ++ rest) := by
  rw [fractionChars]
  split_ifs
  · exact hrest
  · exact endsNumber_cons (by decide) _
  · exact endsNumber_cons (by decide) _
  · exact endsNumber_cons (by decide) _

theorem fraction?_fractionChars {n : Nat} (hn : n < nanosPerSecond) (hrest : EndsNumber rest)
    (hpoint : rest.head? ≠ some '.') : fraction? (fractionChars n ++ rest) = some (n, rest) := by
  have hlimit : nanosPerSecond = 1000000000 := rfl
  rw [fractionChars]
  split
  · rename_i hzero
    rw [List.nil_append, fraction?.eq_def]
    split
    · exact absurd rfl hpoint
    · rw [hzero]
  split
  · rw [List.cons_append, fraction?_padded (by decide) (by decide) (by omega) hrest]
    have hpow : Nat.pow 10 (9 - 3) = 1000000 := rfl
    rw [hpow, Nat.div_mul_cancel (Nat.dvd_of_mod_eq_zero ‹_›)]
  split
  · rw [List.cons_append, fraction?_padded (by decide) (by decide) (by omega) hrest]
    have hpow : Nat.pow 10 (9 - 6) = 1000 := rfl
    rw [hpow, Nat.div_mul_cancel (Nat.dvd_of_mod_eq_zero ‹_›)]
  · rw [List.cons_append, fraction?_padded (by decide) (by decide) (by omega) hrest]
    have hpow : Nat.pow 10 (9 - 9) = 1 := rfl
    rw [hpow, Nat.mul_one]

/-- Within the years that are counted, in a second of the day or in the leap second that ends a
minute. -/
structure IsValid (t : Instant) : Prop where
  leastYear : leastYear ≤ (Date.ofDays (t.seconds / secondsPerDay)).year
  greatestYear : (Date.ofDays (t.seconds / secondsPerDay)).year ≤ greatestYear
  nanos : t.nanos < 2 * nanosPerSecond
  leap : nanosPerSecond ≤ t.nanos → t.seconds % 60 = 59

instance (t : Instant) : Decidable t.IsValid :=
  decidable_of_iff (leastYear ≤ (Date.ofDays (t.seconds / secondsPerDay)).year ∧
      (Date.ofDays (t.seconds / secondsPerDay)).year ≤ greatestYear ∧
      t.nanos < 2 * nanosPerSecond ∧ (nanosPerSecond ≤ t.nanos → t.seconds % 60 = 59))
    ⟨fun ⟨hleast, hgreatest, hnanos, hleap⟩ => ⟨hleast, hgreatest, hnanos, hleap⟩,
      fun h => ⟨h.leastYear, h.greatestYear, h.nanos, h.leap⟩⟩

theorem IsValid.isCountedDay {t : Instant} (h : t.IsValid) :
    isCountedDay (t.seconds / secondsPerDay) = true := by
  have hreal : (Date.ofDays (t.seconds / secondsPerDay)).isReal = true := by
    rw [Date.isReal, Date.toDays_ofDays, beq_self_eq_true]
  rw [Instant.isCountedDay, isCounted, hreal, decide_eq_true h.leastYear,
    decide_eq_true h.greatestYear]
  rfl

theorem ofChars?_parts {date : Date} {hour minute second nanos : Nat} {seconds : Int}
    (hdate : isCounted date = true)
    (hmonth : 1 ≤ date.month ∧ date.month ≤ 12) (hday : 1 ≤ date.day ∧ date.day ≤ 31)
    (hhour : hour < 24) (hminute : minute < 60) (hsecond : second ≤ 60)
    (hnanos : nanos < nanosPerSecond)
    (hseconds : seconds = date.toDays * secondsPerDay + (hour * 3600 + minute * 60 : Nat) +
      (if second = 60 then 59 else second : Nat))
    (hcounted : isCountedDay (seconds / secondsPerDay) = true) :
    ofChars? (yearChars date.year ++ '-' :: (padded 2 date.month.toNat ++ '-' ::
        (padded 2 date.day.toNat ++ 'T' :: (padded 2 hour ++ ':' :: (padded 2 minute ++ ':' ::
          (padded 2 second ++ (fractionChars nanos ++ ['Z']))))))) =
      some ⟨seconds, if second = 60 then nanos + nanosPerSecond else nanos⟩ := by
  have hdash : ∀ rest, mark? '-' ('-' :: rest) = some rest := mark?_cons (by decide)
  have hcolon : ∀ rest, mark? ':' (':' :: rest) = some rest := mark?_cons (by decide)
  have hfraction : EndsNumber (fractionChars nanos ++ ['Z']) :=
    endsNumber_fractionChars nanos (endsNumber_cons (by decide) [])
  have hzone : offset? (skipBlanks ['Z']) = some (0, []) := rfl
  have hread : (⟨date.year, date.month.toNat, date.day.toNat⟩ : Date) = date := by
    rw [Int.toNat_of_nonneg (by omega), Int.toNat_of_nonneg (by omega)]
  have hend : (skipBlanks []).isEmpty = true := rfl
  refine Option.bind_eq_some_iff.mpr ⟨_, year?_yearChars _ (endsNumber_cons (by decide) _), ?_⟩
  refine Option.bind_eq_some_iff.mpr ⟨_, hdash _, ?_⟩
  refine Option.bind_eq_some_iff.mpr ⟨_, twoDigits?_padded_cons (by omega) (by decide) _, ?_⟩
  refine Option.bind_eq_some_iff.mpr ⟨_, hdash _, ?_⟩
  refine Option.bind_eq_some_iff.mpr ⟨_, twoDigits?_padded_cons (by omega) (by decide) _, ?_⟩
  refine (if_pos (Or.inl rfl)).trans ?_
  refine Option.bind_eq_some_iff.mpr ⟨_, rfl, ?_⟩
  refine Option.bind_eq_some_iff.mpr ⟨_, twoDigits?_padded_cons (by omega) (by decide) _, ?_⟩
  refine Option.bind_eq_some_iff.mpr ⟨_, hcolon _, ?_⟩
  refine Option.bind_eq_some_iff.mpr ⟨_, twoDigits?_padded_cons (by omega) (by decide) _, ?_⟩
  refine Option.bind_eq_some_iff.mpr ⟨_, hcolon _, ?_⟩
  refine Option.bind_eq_some_iff.mpr ⟨_, twoDigits?_padded (by omega) hfraction, ?_⟩
  refine Option.bind_eq_some_iff.mpr
    ⟨_, fraction?_fractionChars hnanos (endsNumber_cons (by decide) _) (by decide), ?_⟩
  refine Option.bind_eq_some_iff.mpr ⟨_, hzone, ?_⟩
  simp only [hread, Int.sub_zero, ← hseconds, hdate, hhour, hminute, hsecond, hend, hcounted,
    and_self, if_true]

theorem ofText?_text {t : Instant} (h : t.IsValid) : ofText? t.text = some t := by
  have hbounds := Date.ofDays_bounds (t.seconds / secondsPerDay)
  have hdate : isCounted (Date.ofDays (t.seconds / secondsPerDay)) = true := h.isCountedDay
  have hdays : (Date.ofDays (t.seconds / secondsPerDay)).toDays = t.seconds / secondsPerDay :=
    Date.toDays_ofDays _
  have hlimit : nanosPerSecond = 1000000000 := rfl
  have hnanos := h.nanos
  obtain ⟨second, hsecond⟩ : ∃ second, second = (t.seconds % secondsPerDay).toNat := ⟨_, rfl⟩
  have hday : t.seconds = t.seconds / secondsPerDay * secondsPerDay + second ∧ second < 86400 := by
    rw [secondsPerDay] at hsecond ⊢
    omega
  rw [ofText?, text, String.toList_ofList, chars, ← hsecond]
  simp only [List.append_assoc, List.cons_append]
  by_cases hleap : nanosPerSecond ≤ t.nanos
  · have hlast : second % 60 + 1 = 60 := by
      have hminute := h.leap hleap
      rw [secondsPerDay] at hday
      omega
    have hseconds : t.seconds = (Date.ofDays (t.seconds / secondsPerDay)).toDays * secondsPerDay +
        (second / 3600 * 3600 + second / 60 % 60 * 60 : Nat) +
        (if 60 = 60 then 59 else 60 : Nat) := by
      rw [hdays, if_pos rfl]
      omega
    simp only [hleap, if_true, hlast]
    rw [ofChars?_parts hdate ⟨hbounds.1, hbounds.2.1⟩ hbounds.2.2 (by omega) (by omega) (by omega)
      (by omega) hseconds h.isCountedDay]
    simp only [if_true, Nat.sub_add_cancel hleap]
  · have hsixty : second % 60 ≠ 60 := by omega
    have hseconds : t.seconds = (Date.ofDays (t.seconds / secondsPerDay)).toDays * secondsPerDay +
        (second / 3600 * 3600 + second / 60 % 60 * 60 : Nat) +
        (if second % 60 = 60 then 59 else second % 60 : Nat) := by
      rw [hdays, if_neg hsixty]
      omega
    simp only [hleap, if_false, Nat.add_zero]
    rw [ofChars?_parts hdate ⟨hbounds.1, hbounds.2.1⟩ hbounds.2.2 (by omega) (by omega) (by omega)
      (by omega) hseconds h.isCountedDay]
    simp only [hsixty, if_false]

end Weblog.Instant
