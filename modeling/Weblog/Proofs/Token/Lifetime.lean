import Mathlib.Algebra.Group.Int.Defs
import Weblog.Proofs.Settings
import Weblog.Proofs.Token.Window

/-!
How long tokens live under settings that are accepted. The settings are refused only where the
lifetime is nothing at all, while tokens count whole seconds: a lifetime of less than a second is
accepted, and its tokens expire in the second in which they are issued. A lifetime in hours is kept
exactly, up to the end of time.
-/

namespace Weblog

open Json (fitsSigned)

namespace TokenService

variable (service : TokenService) {userId time : Int} (username : String)

theorem issuedAt_lt_expiresAt_iff (userId : Int) (hto : time < Token.greatestTime) :
    (service.claimsAt userId username time).issuedAt <
        (service.claimsAt userId username time).expiresAt ↔ 1 ≤ service.lifetime := by
  have hgreatest : Token.greatestTime = 9223372036854775807 := rfl
  simp only [claimsAt]
  omega

theorem expiresAt_of_no_lifetime (userId : Int) (hto : time < Token.greatestTime)
    (hlifetime : service.lifetime = 0) :
    (service.claimsAt userId username time).expiresAt = time := by
  have hgreatest : Token.greatestTime = 9223372036854775807 := rfl
  simp only [claimsAt]
  omega

theorem verify_issueAt_now (huserId : fitsSigned userId = true) (hfrom : 0 ≤ time)
    (hto : time ≤ Token.greatestTime) :
    service.verify time.toNat (service.issueAt userId username time) =
      .ok (service.claimsAt userId username time) := by
  rw [service.verify_issueAt username huserId hfrom hto, service.window_claimsAt username hfrom hto]
  rfl

theorem verify_issueAt_next (huserId : fitsSigned userId = true) (hfrom : 0 ≤ time)
    (hto : time < Token.greatestTime) (hlifetime : service.lifetime = 0) :
    service.verify (time.toNat + 1) (service.issueAt userId username time) = .error .expired := by
  have hexpires := service.expiresAt_of_no_lifetime username userId hto hlifetime
  rw [service.verify_issueAt username huserId hfrom (Int.le_of_lt hto), Claims.window, hexpires,
    if_pos (by omega)]
  rfl

end TokenService

/-- Under settings that are accepted, whatever they were made of, a token expires later than it was
issued if and only if its lifetime has a whole second. If not, the lifetime is a part of a second,
and the token has expired a second later; where no such lifetime was ever chosen, this cannot
happen. -/
theorem token_outlives_issue_iff (choices : List Setting)
    (haccepted : (Settings.default.chooseAll choices).refusal? = none) (userId : Int)
    (username : String) (huserId : fitsSigned userId = true) (time : Int) (hfrom : 0 ≤ time)
    (hto : time < Token.greatestTime) :
    let settings := Settings.default.chooseAll choices
    let service := TokenService.ofSettings settings
    let token := service.issueAt userId username time
    ∃ claims, service.verify time.toNat token = .ok claims ∧ claims.issuedAt = time ∧
      (claims.issuedAt < claims.expiresAt ↔ 1 ≤ settings.tokenLifetime.seconds) ∧
      (settings.tokenLifetime.seconds = 0 → 0 < settings.tokenLifetime.nanos ∧
        claims.expiresAt = claims.issuedAt ∧
        service.verify (time.toNat + 1) token = .error .expired) ∧
      ((∀ span, .tokenLifetime span ∈ choices → 1 ≤ span.seconds ∨ span.nanos = 0) →
        claims.issuedAt < claims.expiresAt) := by
  intro settings service token
  have hpositive : (service.claimsAt userId username time).issuedAt <
      (service.claimsAt userId username time).expiresAt ↔ 1 ≤ settings.tokenLifetime.seconds :=
    service.issuedAt_lt_expiresAt_iff username userId hto
  have hnanos : settings.tokenLifetime.seconds = 0 → 0 < settings.tokenLifetime.nanos :=
    Settings.lifetime_of_refusal?_eq_none haccepted
  refine ⟨service.claimsAt userId username time,
    service.verify_issueAt_now username huserId hfrom (Int.le_of_lt hto), rfl, hpositive,
    fun hnone => ?_, fun hwhole => ?_⟩
  · exact ⟨hnanos hnone, service.expiresAt_of_no_lifetime username userId hto hnone,
      service.verify_issueAt_next username huserId hfrom hto hnone⟩
  · -- hours are whole seconds, so what has no second is nothing, which is refused
    have hlifetime : 1 ≤ settings.tokenLifetime.seconds ∨ settings.tokenLifetime.nanos = 0 :=
      Settings.tokenLifetime_chooseAll (P := fun span => 1 ≤ span.seconds ∨ span.nanos = 0)
        (.inr rfl) (fun _ _ => .inr rfl) hwhole
    rw [hpositive]
    omega

namespace Sample

/-- Tokens are to live for half a second. -/
def halfSecond : List Setting :=
  [.tokenHours 72, .tokenLifetime ⟨0, 500000000⟩, .tokenSecret "secret"]

theorem accepted_halfSecond : (Settings.default.chooseAll halfSecond).refusal? = none := by
  decide

end Sample

open Sample in
theorem token_outlives_issue_iff_half_second :
    (Settings.default.chooseAll halfSecond).refusal? = none ∧ fitsSigned 1 = true ∧
      (0 : Int) ≤ 1700000000 ∧ 1700000000 < Token.greatestTime ∧
      let service := TokenService.ofSettings (Settings.default.chooseAll halfSecond)
      let token := service.issueAt 1 "alice" 1700000000
      ∃ claims, service.verify 1700000000 token = .ok claims ∧ claims.issuedAt = 1700000000 ∧
        claims.expiresAt = 1700000000 ∧ service.verify 1700000001 token = .error .expired := by
  refine ⟨accepted_halfSecond, by decide, by decide, by decide, ?_⟩
  obtain ⟨claims, hverify, hissued, -, hnone, -⟩ := token_outlives_issue_iff halfSecond
    accepted_halfSecond 1 "alice" (by decide) 1700000000 (by decide) (by decide)
  obtain ⟨-, hexpires, hnext⟩ := hnone rfl
  exact ⟨claims, hverify, hissued, hexpires.trans hissued, hnext⟩

theorem not_every_token_outlives_issue :
    ¬ ∀ (choices : List Setting) (userId : Int) (username : String) (time : Int) (claims : Claims),
      (Settings.default.chooseAll choices).refusal? = none → fitsSigned userId = true →
      0 ≤ time → time < Token.greatestTime →
      (TokenService.ofSettings (Settings.default.chooseAll choices)).verify time.toNat
        ((TokenService.ofSettings (Settings.default.chooseAll choices)).issueAt userId username
          time) = .ok claims →
      claims.issuedAt < claims.expiresAt := by
  intro houtlives
  let service := TokenService.ofSettings (Settings.default.chooseAll Sample.halfSecond)
  have hlater := houtlives Sample.halfSecond 1 "alice" 1700000000 _ Sample.accepted_halfSecond
    (by decide) (by decide) (by decide)
    (service.verify_issueAt_now "alice" (by decide) (by decide) (by decide))
  have hsame : (service.claimsAt 1 "alice" 1700000000).expiresAt = 1700000000 :=
    service.expiresAt_of_no_lifetime "alice" 1 (by decide) rfl
  exact absurd hsame (Int.ne_of_gt hlater)

theorem Settings.tokenLifetime_of_hours (settings : Settings) {later : List Setting}
    (hhours : ∀ other, .tokenHours other ∉ later) (hspans : ∀ span, .tokenLifetime span ∉ later)
    (hours : Nat) :
    ((settings.choose (.tokenHours hours)).chooseAll later).tokenLifetime = hoursSpan hours := by
  apply tokenLifetime_chooseAll (P := fun span => span = hoursSpan hours) rfl
  · intro other hother
    exact absurd hother (hhours other)
  · intro span hspan
    exact absurd hspan (hspans span)

/-- The product, the conversion and the sum stop at their greatest numbers, but all in all only the
end of time counts. -/
theorem TokenService.expiresAt_of_hours {service : TokenService} {hours : Nat}
    (hlifetime : service.lifetime = (Settings.hoursSpan hours).seconds) (userId : Int)
    (username : String) {time : Int} (hfrom : 0 ≤ time) :
    (service.claimsAt userId username time).expiresAt = min (time + 3600 * hours) (2 ^ 63 - 1) := by
  have hgreatest : Token.greatestTime = 9223372036854775807 := rfl
  have hword : greatestWord = 18446744073709551615 := rfl
  have hseconds : (Settings.hoursSpan hours).seconds = min (hours * 3600) greatestWord := rfl
  simp only [claimsAt]
  omega

/-- A token with a lifetime in hours expires so many hours after its issue, or at the end of time
where that comes before: never before its issue, and no sooner for more hours or for a later
issue. -/
theorem expiry_of_hours_exact (settings : Settings) (later : List Setting)
    (hhours : ∀ other, .tokenHours other ∉ later) (hspans : ∀ span, .tokenLifetime span ∉ later)
    (userId : Int) (username : String) (huserId : fitsSigned userId = true) :
    let service := fun hours : Nat =>
      TokenService.ofSettings ((settings.choose (.tokenHours hours)).chooseAll later)
    ∃ claims : Nat → Int → Claims,
      (∀ hours time, 0 ≤ time → time ≤ Token.greatestTime →
        (service hours).verify time.toNat ((service hours).issueAt userId username time) =
          .ok (claims hours time) ∧
        (claims hours time).issuedAt = time ∧
        (claims hours time).expiresAt = min (time + 3600 * hours) (2 ^ 63 - 1) ∧
        (claims hours time).issuedAt ≤ (claims hours time).expiresAt) ∧
      ∀ hours hours' time time', 0 ≤ time → hours ≤ hours' → time ≤ time' →
        (claims hours time).expiresAt ≤ (claims hours' time').expiresAt := by
  intro service
  have hexpires : ∀ (hours : Nat) (time : Int), 0 ≤ time →
      ((service hours).claimsAt userId username time).expiresAt =
        min (time + 3600 * hours) (2 ^ 63 - 1) := by
    intro hours time hfrom
    apply TokenService.expiresAt_of_hours _ userId username hfrom
    exact congrArg Span.seconds (settings.tokenLifetime_of_hours hhours hspans hours)
  refine ⟨fun hours => (service hours).claimsAt userId username, ?_, ?_⟩
  · intro hours time hfrom hto
    have hread := (service hours).verify_issueAt_now username huserId hfrom hto
    obtain ⟨hle, -⟩ := Token.expiresAt_bounds (service hours) userId username hto
    exact ⟨hread, rfl, hexpires hours time hfrom, hle⟩
  · intro hours hours' time time' hfrom hless hbefore
    have hfrom' := Int.le_trans hfrom hbefore
    simp only [hexpires hours time hfrom, hexpires hours' time' hfrom']
    omega

theorem expiry_of_hours_exact_greatest :
    (∀ other, .tokenHours other ∉ [Setting.origins "*"]) ∧
      (∀ span, .tokenLifetime span ∉ [Setting.origins "*"]) ∧ fitsSigned 1 = true ∧
      (0 : Int) ≤ 9223372036854775806 ∧ 9223372036854775806 ≤ Token.greatestTime ∧
      let service := TokenService.ofSettings
        ((Settings.default.choose (.tokenHours 18446744073709551615)).chooseAll [.origins "*"])
      ∃ claims, service.verify 9223372036854775806 (service.issueAt 1 "alice" 9223372036854775806) =
          .ok claims ∧
        claims.issuedAt = 9223372036854775806 ∧ claims.expiresAt = 9223372036854775807 := by
  have hhours : ∀ other, .tokenHours other ∉ [Setting.origins "*"] := by simp
  have hspans : ∀ span, .tokenLifetime span ∉ [Setting.origins "*"] := by simp
  refine ⟨hhours, hspans, by decide, by decide, by decide, ?_⟩
  obtain ⟨claims, hclaims, -⟩ := expiry_of_hours_exact Settings.default [.origins "*"] hhours hspans
    1 "alice" (by decide)
  obtain ⟨hread, hissued, hexpires, -⟩ :=
    hclaims 18446744073709551615 9223372036854775806 (by decide) (by decide)
  exact ⟨_, hread, hissued, hexpires⟩

end Weblog
