import Weblog.Proofs.Service.Reachability

namespace Weblog

open Application Session

/-- A request that changes something is answered with a success. -/
theorem Effect.status_of_changed {shared : Shared} {m : Moment} {r : Request} {s : Store}
    {x : Except RequestError Response × Store} (h : Effect shared m r s x) (hchanged : x.2 ≠ s) :
    (reply x.1).status = 200 ∨ (reply x.1).status = 201 ∨ (reply x.1).status = 204 := by
  cases h with
  | unchanged => exact absurd rfl hchanged
  | registered => exact .inr (.inl rfl)
  | changedAccount => exact .inl rfl
  | published => exact .inr (.inl rfl)
  | revised => exact .inl rfl
  | retracted => exact .inr (.inr rfl)
  | remarked => exact .inr (.inl rfl)
  | withdrawn => exact .inr (.inr rfl)

theorem failed_respond {s : Store} (hs : Reachable s) (app : Application) (m : Moment)
    (r : Request) (hstatus : 400 ≤ ((app.respond m r).run s).1.status) :
    ((app.respond m r).run s).2 = s := by
  obtain ⟨x, heffect, hreply⟩ := effect_respond hs.sound app m r
  by_contra hchanged
  have hsuccess := heffect.status_of_changed hchanged
  rw [hreply] at hstatus
  change 400 ≤ (reply x).status at hstatus
  dsimp only at hsuccess
  omega

open Sample in
theorem failed_respond_rename :
    400 ≤ ((app.respond moment (rename "hello" "!!!")).run
        (store [article 1 "hello" "Hello"] 1)).1.status ∧
      ((app.respond moment (rename "hello" "!!!")).run (store [article 1 "hello" "Hello"] 1)).2 =
        store [article 1 "hello" "Hello"] 1 := by
  have hroute : Route.ofPath? (rename "hello" "!!!").path = some (.article "hello") := by decide
  have hstatus : 400 ≤ ((app.respond moment (rename "hello" "!!!")).run
      (store [article 1 "hello" "Hello"] 1)).1.status := by
    rw [respond_asAlice hroute (by decide) rfl rfl, run_bind, run_finish]
    decide +kernel
  exact ⟨hstatus, failed_respond served_published.reachable app moment _ hstatus⟩

end Weblog
