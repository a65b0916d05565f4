import Weblog.Settings

namespace Weblog.Settings

variable {settings : Settings}

theorem refusal?_of_bounds (hlifetime : 1 ≤ settings.tokenLifetime.seconds)
    (hleast : leastHashCost ≤ settings.hashCost)
    (hgreatest : settings.hashCost ≤ greatestHashCost) :
    settings.refusal? = if settings.tokenSecret = "" then some .noSecret
      else if settings.isProduction = true ∧ settings.tokenSecret = placeholderSecret then
        some .placeholderInProduction
      else none := by
  have hseconds : ¬ (settings.tokenLifetime.seconds = 0 ∧ settings.tokenLifetime.nanos = 0) :=
    fun h => Nat.ne_of_gt hlifetime h.1
  have hcost : ¬ (settings.hashCost < leastHashCost ∨ greatestHashCost < settings.hashCost) := by
    rw [not_or, Nat.not_lt, Nat.not_lt]
    exact ⟨hleast, hgreatest⟩
  rw [refusal?, if_neg hseconds, if_neg hcost]
  simp only [String.isEmpty_iff, Bool.and_eq_true, hasPlaceholderSecret, beq_iff_eq]

theorem lifetime_of_refusal?_eq_none (h : settings.refusal? = none) :
    settings.tokenLifetime.seconds = 0 → 0 < settings.tokenLifetime.nanos := by
  intro hseconds
  rw [Nat.pos_iff_ne_zero]
  intro hnanos
  have hnone : settings.tokenLifetime.seconds = 0 ∧ settings.tokenLifetime.nanos = 0 :=
    ⟨hseconds, hnanos⟩
  simp only [refusal?, if_pos hnone] at h
  split at h
  · exact nomatch h
  · split at h <;> exact nomatch h

theorem tokenLifetime_chooseAll {P : Span → Prop} {choices : List Setting}
    (hbefore : P settings.tokenLifetime)
    (hhours : ∀ hours, .tokenHours hours ∈ choices → P (hoursSpan hours))
    (hspans : ∀ span, .tokenLifetime span ∈ choices → P span) :
    P (settings.chooseAll choices).tokenLifetime := by
  induction choices generalizing settings with
  | nil => exact hbefore
  | cons choice choices ih =>
      rw [chooseAll, List.foldl_cons]
      refine ih ?_ (fun hours h => hhours hours (List.mem_cons_of_mem _ h))
        fun span h => hspans span (List.mem_cons_of_mem _ h)
      cases choice with
      | tokenHours hours => exact hhours hours List.mem_cons_self
      | tokenLifetime span => exact hspans span List.mem_cons_self
      | _ => exact hbefore

end Weblog.Settings
