import Weblog.Time.Calendar

namespace Weblog.Date

/-- The first date comes before the second. -/
def Before (a b : Date) : Prop :=
  a.year < b.year ∨ a.year = b.year ∧ (a.month < b.month ∨ a.month = b.month ∧ a.day < b.day)

/-- The year of a cycle in which a day of the cycle lies. -/
def yearOfCycle (c : Int) : Int :=
  (c - c / 1460 + c / 36524 - c / 146096) / 365

theorem yearOfCycle_le {c c' : Int} (h : c ≤ c') : yearOfCycle c ≤ yearOfCycle c' := by
  -- one day more takes one day off for a leap day at most
  have hstep : ∀ (c : Int) (n : Nat), c - c / 1460 + c / 36524 - c / 146096 ≤
      (c + n) - (c + n) / 1460 + (c + n) / 36524 - (c + n) / 146096 := by
    intro c n
    induction n with
    | zero => simp
    | succ n ih =>
        refine Int.le_trans ih ?_
        push_cast
        omega
  have hsum := hstep c (c' - c).toNat
  have hc : c + ((c' - c).toNat : Int) = c' := by omega
  rw [hc] at hsum
  exact Int.ediv_le_ediv (by decide) hsum

theorem ofDays_eq (days : Int) :
    ofDays days = ofParts ((days + 719468) / 146097) (yearOfCycle ((days + 719468) % 146097))
      ((5 * ((days + 719468) % 146097 -
        daysBeforeYear (yearOfCycle ((days + 719468) % 146097))) + 2) / 153)
      ((days + 719468) % 146097 - daysBeforeYear (yearOfCycle ((days + 719468) % 146097)) -
        daysBeforeMonth ((5 * ((days + 719468) % 146097 -
          daysBeforeYear (yearOfCycle ((days + 719468) % 146097))) + 2) / 153) + 1) :=
  rfl

theorem before_ofParts {cycle year months day cycle' year' months' day' : Int}
    (hm : 0 ≤ months ∧ months < 12) (hm' : 0 ≤ months' ∧ months' < 12)
    (h : cycle * 400 + year < cycle' * 400 + year' ∨
      cycle * 400 + year = cycle' * 400 + year' ∧
        (months < months' ∨ months = months' ∧ day < day')) :
    (ofParts cycle year months day).Before (ofParts cycle' year' months' day') := by
  rw [ofParts, ofParts]
  split <;> split <;> simp only [Before] <;> omega

theorem dayOfYear_bounds_ofCycle {c : Int} (hc : 0 ≤ c) (hc' : c < 146097) :
    0 ≤ c - daysBeforeYear (yearOfCycle c) ∧ c - daysBeforeYear (yearOfCycle c) ≤ 365 :=
  dayOfYear_bounds hc hc' rfl

theorem ofDays_before {days days' : Int} (h : days < days') :
    (ofDays days).Before (ofDays days') := by
  rw [ofDays_eq, ofDays_eq]
  have hcycle : (days + 719468) / 146097 < (days' + 719468) / 146097 ∨
      (days + 719468) / 146097 = (days' + 719468) / 146097 ∧
        (days + 719468) % 146097 < (days' + 719468) % 146097 := by omega
  have hc : 0 ≤ (days + 719468) % 146097 ∧ (days + 719468) % 146097 < 146097 := by omega
  have hc' : 0 ≤ (days' + 719468) % 146097 ∧ (days' + 719468) % 146097 < 146097 := by omega
  generalize (days + 719468) % 146097 = c at *
  generalize (days' + 719468) % 146097 = c' at *
  generalize (days + 719468) / 146097 = cycle at *
  generalize (days' + 719468) / 146097 = cycle' at *
  have hdoy := dayOfYear_bounds_ofCycle hc.1 hc.2
  have hdoy' := dayOfYear_bounds_ofCycle hc'.1 hc'.2
  have hyear : 0 ≤ yearOfCycle c ∧ yearOfCycle c < 400 := by
    simp only [yearOfCycle]
    omega
  have hyear' : 0 ≤ yearOfCycle c' ∧ yearOfCycle c' < 400 := by
    simp only [yearOfCycle]
    omega
  refine before_ofParts (by omega) (by omega) ?_
  rcases hcycle with hlt | ⟨rfl, hlt⟩
  · exact .inl (by omega)
  · rcases Int.lt_or_eq_of_le (yearOfCycle_le (Int.le_of_lt hlt)) with hless | hsame
    · exact .inl (by omega)
    · rw [hsame] at hdoy ⊢
      refine .inr ⟨rfl, ?_⟩
      simp only [daysBeforeMonth]
      omega

theorem ofDays_bounds (days : Int) :
    1 ≤ (ofDays days).month ∧ (ofDays days).month ≤ 12 ∧ 1 ≤ (ofDays days).day ∧
      (ofDays days).day ≤ 31 := by
  rw [ofDays_eq]
  have hc : 0 ≤ (days + 719468) % 146097 ∧ (days + 719468) % 146097 < 146097 := by omega
  generalize (days + 719468) % 146097 = c at *
  obtain ⟨hleast, hmost⟩ := dayOfYear_bounds_ofCycle hc.1 hc.2
  generalize c - daysBeforeYear (yearOfCycle c) = doy at *
  simp only [ofParts, daysBeforeMonth]
  split <;> (dsimp only; omega)

end Weblog.Date
