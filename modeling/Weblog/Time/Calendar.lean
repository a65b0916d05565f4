/-!
Days of the Gregorian calendar, counted from the first day of 1970. The count works on years
that begin in March, so that a leap day is the last day of its year, and on cycles of 400 years.
-/

namespace Weblog

/-- A day by year, month and day of the month. -/
structure Date where
  year : Int
  month : Int
  day : Int
deriving Repr, DecidableEq

/-- Days from the first of March to the first day of the month that is `months` later. -/
def daysBeforeMonth (months : Int) : Int :=
  (153 * months + 2) / 5

/-- Days of a cycle before the year with the number `year` in it. -/
def daysBeforeYear (year : Int) : Int :=
  365 * year + year / 4 - year / 100

/-- Days from the first day of 1970 to this one. -/
def Date.toDays (date : Date) : Int :=
  let year := if date.month ≤ 2 then date.year - 1 else date.year
  let dayOfYear := daysBeforeMonth ((date.month + 9) % 12) + date.day - 1
  year / 400 * 146097 + daysBeforeYear (year % 400) + dayOfYear - 719468

/-- The date of a day given by its cycle, its year in the cycle, the months since March, and
the day of the month. -/
def Date.ofParts (cycle year months day : Int) : Date :=
  if months < 10 then ⟨cycle * 400 + year, months + 3, day⟩
  else ⟨cycle * 400 + year + 1, months - 9, day⟩

/-- The date so many days after the first day of 1970. -/
def Date.ofDays (days : Int) : Date :=
  let shifted := days + 719468
  let dayOfCycle := shifted % 146097
  let year :=
    (dayOfCycle - dayOfCycle / 1460 + dayOfCycle / 36524 - dayOfCycle / 146096) / 365
  let dayOfYear := dayOfCycle - daysBeforeYear year
  let months := (5 * dayOfYear + 2) / 153
  Date.ofParts (shifted / 146097) year months (dayOfYear - daysBeforeMonth months + 1)

/-- The day is in the calendar: its number leads back to it. -/
def Date.isReal (date : Date) : Bool :=
  Date.ofDays date.toDays == date

theorem Date.toDays_ofParts {cycle year months day : Int} (hy : 0 ≤ year) (hy' : year < 400)
    (hm : 0 ≤ months) (hm' : months < 12) :
    (Date.ofParts cycle year months day).toDays =
      cycle * 146097 + daysBeforeYear year + (daysBeforeMonth months + day - 1) - 719468 := by
  rw [Date.ofParts]
  split
  · have h : ¬ months + 3 ≤ 2 := by omega
    have hq : (cycle * 400 + year) / 400 = cycle := by omega
    have hr : (cycle * 400 + year) % 400 = year := by omega
    have hmonth : (months + 3 + 9) % 12 = months := by omega
    simp only [Date.toDays, h, if_false, hq, hr, hmonth]
  · have h : months - 9 ≤ 2 := by omega
    have hq : (cycle * 400 + year + 1 - 1) / 400 = cycle := by omega
    have hr : (cycle * 400 + year + 1 - 1) % 400 = year := by omega
    have hmonth : (months - 9 + 9) % 12 = months := by omega
    simp only [Date.toDays, h, if_true, hq, hr, hmonth]

theorem dayOfYear_bounds {c year : Int} (hc : 0 ≤ c) (hc' : c < 146097)
    (hy : year = (c - c / 1460 + c / 36524 - c / 146096) / 365) :
    0 ≤ c - daysBeforeYear year ∧ c - daysBeforeYear year ≤ 365 := by
  have hcentury : c / 36524 = 0 ∨ c / 36524 = 1 ∨ c / 36524 = 2 ∨ c / 36524 = 3 ∨
      c / 36524 = 4 := by omega
  have hlast : c / 146096 = 0 ∨ c / 146096 = 1 := by omega
  have hfour : 0 ≤ year / 4 ∧ 4 * (year / 4) ≤ year ∧ year < 4 * (year / 4) + 4 := by omega
  have hhundred : 0 ≤ year / 100 ∧ 100 * (year / 100) ≤ year ∧
      year < 100 * (year / 100) + 100 := by omega
  have hleap : 1460 * (c / 1460) ≤ c ∧ c < 1460 * (c / 1460) + 1460 := by omega
  have hyear : 365 * year ≤ c - c / 1460 + c / 36524 - c / 146096 ∧
      c - c / 1460 + c / 36524 - c / 146096 < 365 * year + 365 := by omega
  have hc36524 : 36524 * (c / 36524) ≤ c ∧ c < 36524 * (c / 36524) + 36524 := by omega
  have hc146096 : 146096 * (c / 146096) ≤ c := by omega
  clear hy
  unfold daysBeforeYear
  generalize year / 4 = four at *
  generalize year / 100 = hundred at *
  generalize c / 1460 = leap at *
  rcases hcentury with h | h | h | h | h <;> rcases hlast with h' | h' <;>
    rw [h, h'] at hyear <;> rw [h] at hc36524 <;> rw [h'] at hc146096 <;>
    obtain rfl | rfl | rfl | rfl | rfl : hundred = 0 ∨ hundred = 1 ∨ hundred = 2 ∨
      hundred = 3 ∨ hundred = 4 := by omega
  all_goals omega

theorem Date.toDays_ofDays (days : Int) : (Date.ofDays days).toDays = days := by
  have hc : 0 ≤ (days + 719468) % 146097 ∧ (days + 719468) % 146097 < 146097 := by omega
  have hs := Int.mul_ediv_add_emod (days + 719468) 146097
  unfold Date.ofDays
  extract_lets shifted c year doy months
  have hyear : 0 ≤ year ∧ year < 400 := by omega
  have hdoy : 0 ≤ doy ∧ doy ≤ 365 := dayOfYear_bounds hc.1 hc.2 rfl
  have hmonths : 0 ≤ months ∧ months < 12 := by omega
  rw [Date.toDays_ofParts hyear.1 hyear.2 hmonths.1 hmonths.2]
  simp only [doy, c, shifted] at *
  omega

end Weblog
