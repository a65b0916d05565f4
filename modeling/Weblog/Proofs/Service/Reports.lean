import Weblog.Proofs.Service.Reachability
import Weblog.Proofs.Service.Refusals

namespace Weblog

open Session Handler

/-- A record of the violations, of which there are some, or of one error. -/
inductive Body.IsReport : Body → Prop
  | violations {violations : List Violation} (h : violations ≠ []) :
      IsReport (.json (.object [("errors", .array (violations.map fun v =>
        .object [("field", .string v.field), ("message", .string v.message)]))]))
  | error (text : String) : IsReport (.json (.object [("error", .string text)]))

theorem Body.not_isReport_text (text : String) : ¬ (Body.text text).IsReport :=
  nofun

/-- The path has a parameter, under the name, that is no text, and the request gets so far: if its
operation is for users, it shows a token. -/
def Visit.Misspells (v : Visit) (name : String) : Prop :=
  ∃ route raw, Route.ofPath? v.request.path = some route ∧ route.parameter? = some (name, raw) ∧
    parameter? raw = none ∧
    (route.isPrivate v.request.method = true → ∃ p, IsFor v.app.shared v.moment v.request p)

theorem tolerates_isReport (shared : Shared) (m : Moment) :
    Tolerates .any shared m fun e => e.body.IsReport where
  badRequest message := .error message
  invalid _ h := .violations h
  unauthorized message := .error message
  forbidden message := .error message
  notFound message := .error message
  conflict message := .error message
  hash _ := .error _
  verify _ _ := .error _
  bears _ _ _ _ := .inr (.error _)

section

variable {v : Visit} {route : Route} {handler : Handler}

theorem surely_misspelt {name : String} (hname : v.Misspells name)
    (hroute : Route.ofPath? v.request.path = some route)
    (hhandler : Application.handler? v.app.shared v.moment v.request route = some handler) :
    v.work.Surely .any fun response => response =
      Application.complete v.app.audience v.moment v.request
        (RequestError.malformedPath name).response := by
  obtain ⟨route', raw, hroute', hparameter, hraw, hp⟩ := hname
  obtain rfl : route' = route := Option.some.inj (hroute'.symm.trans hroute)
  have hthrow := handler_eq_throw hhandler hparameter hraw hp
  have hsettles : Settles .any (· = .malformedPath name) (fun _ => False) handler :=
    hthrow ▸ settles_throw rfl
  refine (hsettles.surely_respond v.app hroute hhandler).imp ?_
  rintro response (⟨told, htold, -⟩ | ⟨e, rfl, rfl⟩)
  · exact htold.elim
  · rfl

theorem surely_reported (hhealth : route ≠ .health) (hname : ∀ name, ¬ v.Misspells name)
    (hroute : Route.ofPath? v.request.path = some route)
    (hhandler : Application.handler? v.app.shared v.moment v.request route = some handler) :
    v.work.Surely .any fun response => ∃ told : Response,
      (told.IsSuccess ∨ told.body.IsReport) ∧
        response = Application.complete v.app.audience v.moment v.request told := by
  have hsettles := (tolerates_isReport v.app.shared v.moment).settles_handler hhealth hhandler
    (fun _ _ _ _ => .inr (.error _)) fun name raw hparameter hraw hp =>
      absurd ⟨route, raw, hroute, hparameter, hraw, hp⟩ (hname name)
  refine (hsettles.surely_respond v.app hroute hhandler).imp ?_
  rintro response (⟨told, htold, rfl⟩ | ⟨e, he, rfl⟩)
  · exact ⟨told, .inl htold, rfl⟩
  · exact ⟨e.response, .inr he, rfl⟩

end

/-- Of every error that a request meets at an operation, other than that for health, its client is
told in one of two records, but for a parameter of the path that is no text: that is told in a text
of its own. The database may be closed. -/
theorem errors_reported_or_misspelt (d : Database) (v : Visit) {route : Route}
    (hroute : Route.ofPath? v.request.path = some route) (hhealth : route ≠ .health)
    (hmethod : v.request.method ∈ route.methods) (hhead : v.request.method ≠ .head)
    (herror : 400 ≤ (v.work.runOn d).1.status) :
    (v.work.runOn d).1.body.IsReport ∧ (∀ name, ¬ v.Misspells name) ∨
      ∃ name, v.Misspells name ∧ (v.work.runOn d).1.status = 400 ∧
        (v.work.runOn d).1.body = .text s!"Invalid URL: Invalid UTF-8 in `{name}`" := by
  obtain ⟨handler, hhandler⟩ := Application.exists_handler? v.app.shared v.moment hmethod
  have hbody (told : Response) :
      (Application.complete v.app.audience v.moment v.request told).body = told.body :=
    if_neg hhead
  by_cases hname : ∃ name, v.Misspells name
  · obtain ⟨name, hname⟩ := hname
    have hresponse := (surely_misspelt hname hroute hhandler).runOn d
    refine .inr ⟨name, hname, ?_, ?_⟩
    · rw [hresponse]
      rfl
    · rw [hresponse, hbody]
      rfl
  · have hname := not_exists.mp hname
    obtain ⟨told, htold, hresponse⟩ := (surely_reported hhealth hname hroute hhandler).runOn d
    rw [hresponse] at herror ⊢
    rw [hbody]
    rcases htold with hsuccess | hreport
    · exact absurd herror (Nat.not_le.mpr hsuccess)
    · exact .inl ⟨hreport, hname⟩

namespace Sample

/-- A request for an article under a name that is no text. -/
def showMisspelt : Visit := ⟨app, moment, ⟨.get, "/api/articles/%FF", "", [], []⟩⟩

theorem route_showMisspelt :
    Route.ofPath? showMisspelt.request.path = some (.article "%FF") := by
  decide

theorem status_showMisspelt : (showMisspelt.work.runOn .empty).1.status = 400 := by
  decide

end Sample

open Sample in
theorem errors_reported_or_misspelt_slug :
    Route.ofPath? showMisspelt.request.path = some (.article "%FF") ∧
      400 ≤ (showMisspelt.work.runOn .empty).1.status ∧
      ∃ name, showMisspelt.Misspells name ∧ (showMisspelt.work.runOn .empty).1.body =
        .text s!"Invalid URL: Invalid UTF-8 in `{name}`" := by
  have herror : 400 ≤ (showMisspelt.work.runOn .empty).1.status :=
    Nat.le_of_eq status_showMisspelt.symm
  have hmisspells : showMisspelt.Misspells "slug" :=
    ⟨.article "%FF", "%FF", route_showMisspelt, rfl, by decide, nofun⟩
  refine ⟨route_showMisspelt, herror, ?_⟩
  rcases errors_reported_or_misspelt .empty showMisspelt route_showMisspelt (by decide) (by decide)
    (by decide) herror with ⟨-, hspelt⟩ | ⟨name, hname, -, hbody⟩
  · exact absurd hmisspells (hspelt "slug")
  · exact ⟨name, hname, hbody⟩

open Sample in
theorem not_every_error_reported :
    ¬ ∀ (d : Database) (v : Visit) (route : Route),
      Route.ofPath? v.request.path = some route → route ≠ .health →
      v.request.method ∈ route.methods → v.request.method ≠ .head →
      400 ≤ (v.work.runOn d).1.status → (v.work.runOn d).1.body.IsReport := by
  intro h
  have hreport := h .empty showMisspelt _ route_showMisspelt (by decide) (by decide) (by decide)
    (Nat.le_of_eq status_showMisspelt.symm)
  have hbody : (showMisspelt.work.runOn .empty).1.body =
      .text "Invalid URL: Invalid UTF-8 in `slug`" := by
    rfl
  exact Body.not_isReport_text _ (hbody ▸ hreport)

end Weblog
