import Mathlib.Data.List.Induction
import Mathlib.Logic.Relation
import Weblog.Proofs.Principal
import Weblog.Proofs.Service.Effects
import Weblog.Proofs.Store.Evolution

namespace Weblog

/-- The stores that requests leave behind when they are answered one after another, beginning
with a new store. Neither the clock nor the application need be the same for all of them. -/
inductive Served : Store → Prop
  | empty : Served .empty
  | respond {s : Store} (hs : Served s) (app : Application) (m : Moment) (r : Request) :
      Served ((app.respond m r).run s).2

/-- A request, with the application that answers it and the moment at which it does. -/
structure Visit where
  app : Application
  moment : Moment
  request : Request

/-- What the application does for the request. -/
def Visit.work (v : Visit) : Session Response :=
  v.app.respond v.moment v.request

/-- The store that visits leave behind when one is answered after another, beginning with a new
store. -/
def Store.visited (visits : List Visit) : Store :=
  visits.foldl (fun s v => (v.work.run s).2) .empty

theorem Store.visited_append (visits : List Visit) (v : Visit) :
    visited (visits ++ [v]) = (v.work.run (visited visits)).2 := by
  rw [visited, List.foldl_append]
  rfl

theorem Store.served_visited (visits : List Visit) : Served (visited visits) := by
  induction visits using List.reverseRecOn with
  | nil => exact .empty
  | append_singleton visits v ih =>
      rw [visited_append]
      exact ih.respond v.app v.moment v.request

/-- A store, and what is left to do for the requests that are being answered. -/
structure Traffic where
  store : Store
  pending : List (Session Response)

namespace Traffic

/-- A request comes in, one statement of a request is carried out, or a request is left, be it
answered or given up. -/
inductive Step : Traffic → Traffic → Prop
  | arrive (t : Traffic) (app : Application) (m : Moment) (r : Request) :
      Step t ⟨t.store, app.respond m r :: t.pending⟩
  | serve (s : Store) (before after : List (Session Response)) (w : Session Response) :
      Step ⟨s, before ++ w :: after⟩ ⟨(w.advance s).2, before ++ (w.advance s).1 :: after⟩
  | leave (s : Store) (before after : List (Session Response)) (w : Session Response) :
      Step ⟨s, before ++ w :: after⟩ ⟨s, before ++ after⟩

/-- One traffic becomes another in any number of steps. -/
abbrev Steps : Traffic → Traffic → Prop :=
  Relation.ReflTransGen Step

/-- The traffic of a new store. -/
def start : Traffic := ⟨.empty, []⟩

/-- The traffic can come about. -/
def Reachable (t : Traffic) : Prop :=
  Steps start t

theorem Reachable.steps {t t' : Traffic} (ht : t.Reachable) (h : Steps t t') : t'.Reachable :=
  ht.trans h

theorem Step.store_eq {t t' : Traffic} (h : Step t t') :
    t'.store = t.store ∨ ∃ q : Statement, t'.store = q.after t.store := by
  cases h with
  | arrive => exact .inl rfl
  | serve s before after w =>
      cases w with
      | done a => exact .inl rfl
      | query q next => exact .inr ⟨q, rfl⟩
  | leave => exact .inl rfl

theorem Step.evolves {t t' : Traffic} (h : Step t t') : Store.Evolves t.store t'.store := by
  rcases h.store_eq with heq | ⟨q, heq⟩
  · exact heq ▸ .refl _
  · exact heq ▸ Store.evolves_after q _

theorem Step.sound {t t' : Traffic} (h : Step t t') (ht : t.store.Sound) : t'.store.Sound := by
  rcases h.store_eq with heq | ⟨q, heq⟩
  · exact heq ▸ ht
  · exact heq ▸ ht.after q

theorem Steps.evolves {t t' : Traffic} (h : Steps t t') : Store.Evolves t.store t'.store := by
  induction h with
  | refl => exact .refl _
  | tail _ hstep ih => exact ih.trans hstep.evolves

theorem Reachable.sound {t : Traffic} (ht : t.Reachable) : t.store.Sound := by
  induction ht with
  | refl => exact Store.sound_empty
  | tail _ hstep ih => exact hstep.sound ih

theorem steps_run (w : Session Response) (s : Store) (waiting : List (Session Response)) :
    Steps ⟨s, w :: waiting⟩ ⟨(w.run s).2, waiting⟩ := by
  -- each statement of the request is one step, taken while it stands first
  induction w generalizing s with
  | done response => exact .single (.leave s [] waiting (.done response))
  | query q next ih =>
      rw [Session.run_query]
      exact .head (.serve s [] waiting (.query q next)) (ih (q.answer s) (q.after s))

theorem steps_respond (t : Traffic) (app : Application) (m : Moment) (r : Request) :
    Steps t ⟨((app.respond m r).run t.store).2, t.pending⟩ :=
  .head (.arrive t app m r) (steps_run _ _ _)

end Traffic

/-- The stores that the service can come to, whatever requests are answered at a time. -/
def Reachable (s : Store) : Prop :=
  ∃ pending, Traffic.Reachable ⟨s, pending⟩

theorem Reachable.sound {s : Store} (hs : Reachable s) : s.Sound := by
  obtain ⟨pending, ht⟩ := hs
  exact ht.sound

theorem Served.traffic {s : Store} (hs : Served s) : Traffic.Reachable ⟨s, []⟩ := by
  induction hs with
  | empty => exact .refl
  | respond _ app m r ih => exact ih.steps (Traffic.steps_respond _ app m r)

theorem Served.reachable {s : Store} (hs : Served s) : Reachable s :=
  ⟨[], hs.traffic⟩

/-- What holds of a new store, and what no effect of a request on a sound store breaks, holds
whenever requests are answered one after another. -/
theorem Served.of_effects {I : Store → Prop} (hempty : I .empty)
    (heffect : ∀ {shared m r s x}, s.Sound → I s → Effect shared m r s x → I x.2) {s : Store}
    (hs : Served s) : I s := by
  induction hs with
  | empty => exact hempty
  | respond hs app m r ih =>
      have hsound := hs.reachable.sound
      obtain ⟨x, hx, -⟩ := Application.effect_respond hsound app m r
      exact heffect hsound ih hx

namespace Sample

open Handler Session

/-- Passwords that are kept as they are. -/
def plain : PasswordScheme :=
  ⟨fun _ _ password => .ok password, fun password hash => .ok (password == hash)⟩

def app : Application := ⟨⟨⟨"secret", 3600⟩, plain, 4, ""⟩, .everybody⟩

def moment : Moment := ⟨⟨0, 0⟩, [], "1"⟩

/-- A body with one record of texts. -/
def body (key : String) (fields : List (String × String)) : Bytes :=
  let record := fields.map fun field => (field.1, Json.Value.string field.2)
  Utf8.encode (Body.json (.object [(key, .object record)])).render

def asJson : List (String × String) := [("content-type", "application/json")]

def register : Request :=
  ⟨.post, "/api/users", "", asJson,
    body "user" [("username", "alice"), ("email", "a@b.co"), ("password", "secret")]⟩

def alice : User := ⟨1, "alice", "a@b.co", "secret", "", "", moment.now, moment.now⟩

def asAlice : List (String × String) := ("authorization", "Token " ++ token) :: asJson

def publish (title : String) : Request :=
  ⟨.post, "/api/articles", "", asAlice,
    body "article" [("title", title), ("description", "d"), ("body", "b")]⟩

def rename (slug title : String) : Request :=
  ⟨.put, "/api/articles/" ++ slug, "", asAlice, body "article" [("title", title)]⟩

def retract (slug : String) : Request :=
  ⟨.delete, "/api/articles/" ++ slug, "", asAlice, []⟩

/-- An article of `alice`. -/
def article (id : Int) (slug title : String) : Article :=
  ⟨id, slug, title, "d", "b", 1, 0, moment.now, moment.now⟩

def store (articles : List Article) (lastArticle : Int) : Store :=
  ⟨[alice], articles, [], 1, lastArticle, 0⟩

theorem store_register : ((app.respond moment register).run .empty).2 = store [] 0 := by
  decide +kernel

theorem served_registered : Served (store [] 0) :=
  store_register ▸ Served.empty.respond app moment register

theorem respond_asAlice {r : Request} {route : Route} {handler : Principal → Handler}
    (hroute : Route.ofPath? r.path = some route) (hmethod : r.method ≠ .options)
    (hhandler : Application.handler? app.shared moment r route =
      some (principal app.shared moment r >>= handler))
    (hr : r.values "authorization" = ["Token " ++ token]) :
    app.respond moment r = Application.finish (handler ⟨1, "alice", token⟩) >>= fun response =>
      pure (Application.complete app.audience moment r response) := by
  have htoken : Principal.ofHeaders app.shared.tokens (clock moment) ["Token " ++ token] =
      .ok ⟨1, "alice", token⟩ := ofHeaders_token
  have hprincipal : principal app.shared moment r = pure ⟨1, "alice", token⟩ := by
    rw [principal, hr, htoken]
    rfl
  rw [Application.respond, Application.handle, hroute]
  simp only [if_neg hmethod, hhandler, hprincipal, pure_bind]

theorem store_asAlice {r : Request} {route : Route} {handler : Principal → Handler}
    (hroute : Route.ofPath? r.path = some route) (hmethod : r.method ≠ .options)
    (hhandler : Application.handler? app.shared moment r route =
      some (principal app.shared moment r >>= handler))
    (hr : r.values "authorization" = ["Token " ++ token]) (s : Store) :
    ((app.respond moment r).run s).2 = (outcome (handler ⟨1, "alice", token⟩) s).2 := by
  rw [respond_asAlice hroute hmethod hhandler hr, run_bind, Application.run_finish]
  rfl

theorem route_publish : Route.ofPath? (publish "Hello").path = some .articles := by decide

theorem route_rename : Route.ofPath? (rename "hello" "New").path = some (.article "hello") := by
  decide

theorem store_publish : ((app.respond moment (publish "Hello")).run (store [] 0)).2 =
    store [article 1 "hello" "Hello"] 1 := by
  rw [store_asAlice route_publish (by decide) rfl rfl]
  decide +kernel

theorem served_published : Served (store [article 1 "hello" "Hello"] 1) :=
  store_publish ▸ served_registered.respond app moment (publish "Hello")

end Sample

end Weblog
