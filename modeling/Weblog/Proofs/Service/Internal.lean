import Weblog.Proofs.Account.Login
import Weblog.Proofs.Bcrypt
import Weblog.Proofs.Service.Calls
import Weblog.Proofs.Service.Refusals

namespace Weblog

open Session Handler

/-- The text is the hash of a password, made with a salt of 16 bytes. -/
def Bcrypt.IsHash (passwordHash : String) : Prop :=
  ∃ salt cost password, salt.length = 16 ∧ hash salt cost password = .ok passwordHash

def Store.Hashed (s : Store) : Prop :=
  ∀ u ∈ s.users, Bcrypt.IsHash u.passwordHash

/-- The service is set up by settings that are not refused, and finds salts of the right length. -/
structure Visit.IsRegular (v : Visit) : Prop where
  settings : ∃ settings commit, settings.refusal? = none ∧
    Application.ofSettings settings Bcrypt.scheme commit = .ok v.app
  salt : v.moment.salt.length = 16

namespace Visit.IsRegular

variable {v : Visit}

theorem shared (hv : v.IsRegular) : v.app.shared.passwords = Bcrypt.scheme ∧
    Bcrypt.leastCost ≤ v.app.shared.hashCost ∧ v.app.shared.hashCost ≤ Bcrypt.greatestCost := by
  obtain ⟨settings, commit, hvalid, happ⟩ := hv.settings
  rw [Application.ofSettings] at happ
  cases haudience : Audience.ofNames settings.origins with
  | error e =>
      rw [haudience] at happ
      exact nomatch happ
  | ok audience =>
      rw [haudience] at happ
      rw [← Except.ok.inj happ]
      refine ⟨rfl, ?_⟩
      rw [Settings.refusal?] at hvalid
      split_ifs at hvalid with hsecret hplaceholder hlifetime hcost
      rwa [not_or, Nat.not_lt, Nat.not_lt] at hcost

theorem exists_hash (hv : v.IsRegular) (password : String) :
    ∃ passwordHash, v.app.shared.passwords.hash v.moment.salt v.app.shared.hashCost password =
      .ok passwordHash := by
  obtain ⟨hscheme, hcost⟩ := hv.shared
  rw [hscheme]
  exact ⟨_, Bcrypt.hash_eq_ok_iff.mpr ⟨hcost, rfl⟩⟩

theorem isHash (hv : v.IsRegular) {passwordHash : String} (h : v.Hashes passwordHash) :
    Bcrypt.IsHash passwordHash := by
  obtain ⟨password, -, hhash⟩ := h
  rw [hv.shared.1] at hhash
  exact ⟨_, _, password, hv.salt, hhash⟩

theorem hashed_after (hv : v.IsRegular) {q : Statement} (hq : v.CallsFor q) {s : Store}
    (hs : s.Hashed) : (q.after s).Hashed := by
  have hwarrants := hq.warrants
  refine Statement.forall_users_after ?_ ?_ hs
  · rintro id username email passwordHash now rfl
    exact hv.isHash hwarrants.2
  · rintro id changes now u rfl hu
    cases hnew : changes.passwordHash with
    | none => simpa [Store.changeUser, hnew] using hu
    | some passwordHash =>
        simpa [Store.changeUser, hnew] using hv.isHash (hwarrants.2 passwordHash hnew)

end Visit.IsRegular

theorem Store.hashed_empty : Store.empty.Hashed :=
  List.forall_mem_nil _

/-- The error is not one of the service itself. -/
def RequestError.IsExternal (e : RequestError) : Prop :=
  e.status ≠ 500

theorem Statement.answer_eq_error {q : Statement} {s : Store} {e : DatabaseError}
    (h : q.answer s = .error e) (hq : q.addsContent = false) :
    q.isUnique = true ∧ ∃ field, e = .repeated field := by
  cases hexec : q.exec s with
  | ok found =>
      rw [answer_of_exec_ok hexec] at h
      cases h
  | error cause =>
      rw [answer_of_exec_error hexec] at h
      obtain rfl := Except.error.inj h
      cases q with
      | insertUser => exact ⟨rfl, Store.insertUser_eq_error hexec⟩
      | updateUser => exact ⟨rfl, Store.updateUser_eq_error hexec⟩
      | updateArticle => exact ⟨rfl, _, Store.updateArticle_eq_error hexec⟩
      | insertArticle | insertComment => cases hq
      | _ => cases hexec

/-- On a database that works, a request is refused for a reason of the service only where it adds an
article or a comment. -/
theorem Visit.IsRegular.tolerates {v : Visit} (hv : v.IsRegular) :
    Tolerates (.of Store.Hashed) v.app.shared v.moment RequestError.IsExternal where
  badRequest _ := (by decide : 400 ≠ 500)
  invalid _ _ := (by decide : 400 ≠ 500)
  unauthorized _ := (by decide : 401 ≠ 500)
  forbidden _ := (by decide : 403 ≠ 500)
  notFound _ := (by decide : 404 ≠ 500)
  conflict _ := (by decide : 409 ≠ 500)
  hash {password e} h := by
    obtain ⟨passwordHash, hhash⟩ := hv.exists_hash password
    exact nomatch hhash.symm.trans h
  verify {email u given e} hrow h := by
    obtain ⟨s, hs, hanswer⟩ := hrow
    obtain ⟨salt, cost, password, hsalt, hhash⟩ :=
      hs u (List.mem_of_find?_eq_some (Except.ok.inj hanswer).symm)
    rw [hv.shared.1] at h
    exact nomatch (Bcrypt.verify_hash hsalt hhash given).symm.trans h
  bears q hq e he := by
    obtain ⟨s, -, hanswer⟩ := he
    exact .inl (Statement.answer_eq_error hanswer.symm hq)

section

variable {v : Visit} {s : Store}

/-- The service itself fails. -/
def Fails (w : ExceptT RequestError Session α) (s : Store) : Prop :=
  ∃ e, (outcome w s).1 = .error e ∧ e.status = 500

theorem fails_bind_iff {w : ExceptT RequestError Session α} {Q : α → Prop}
    {f : α → ExceptT RequestError Session β}
    (hw : Settles (.of Store.Hashed) RequestError.IsExternal Q w) (hreads : Reads w)
    (hs : s.Hashed) :
    Fails (w >>= f) s ↔ ∃ a, outcome w s = (.ok a, s) ∧ Fails (f a) s := by
  have hkept := hreads.outcome s
  have hend := hw.outcome hreads (fun q s hq hs => (Statement.after_of_isRead hq s).symm ▸ hs) hs
  rw [Fails, outcome_bind]
  rcases houtcome : outcome w s with ⟨e | a, s'⟩
  · rw [houtcome] at hend
    obtain ⟨a, ha, -⟩ | ⟨e', he, hexternal⟩ := hend
    · exact nomatch ha
    · obtain rfl := Except.error.inj he
      constructor
      · rintro ⟨e', he', hstatus⟩
        obtain rfl := Except.error.inj he'
        exact absurd hstatus hexternal
      · rintro ⟨a, ha, -⟩
        exact nomatch congrArg Prod.fst ha
  · rw [houtcome] at hkept
    obtain rfl : s' = s := hkept
    constructor
    · exact fun h => ⟨a, rfl, h⟩
    · rintro ⟨b, hb, h⟩
      obtain rfl := Except.ok.inj (congrArg Prod.fst hb)
      exact h

theorem StoreError.status_eq_iff {e : StoreError} :
    e.toRequestError.status = 500 ↔ ∃ cause, e = .database cause := by
  cases e with
  | conflict field => cases field <;> simp [toRequestError, RequestError.status]
  | _ => simp [toRequestError, RequestError.status]

theorem fails_work_iff {w : Work α} {f : α → Response} :
    Fails (work w >>= fun a => (pure (f a) : Handler)) s ↔
      ∃ cause, (outcome w s).1 = .error (.database cause) := by
  rw [Fails, outcome_bind, outcome_work]
  rcases outcome w s with ⟨e | a, s'⟩
  · simp [Except.mapError, StoreError.status_eq_iff]
  · constructor
    · rintro ⟨e, he, -⟩
      exact nomatch he
    · rintro ⟨cause, h⟩
      exact nomatch h

/-- There is a slug for the title that no article has. -/
def Store.HasFreeSlug (s : Store) (title : String) (now : Instant) : Prop :=
  Slug.ofTitle title ≠ "" ∧
    ∃ slug ∈ Slug.candidates (Slug.ofTitle title) now.seconds.toNat, ∀ a ∈ s.articles, a.slug ≠ slug

theorem Store.exists_free_iff {base : String} {now : Nat} :
    (∃ slug ∈ Slug.candidates base now, ∀ a ∈ s.articles, a.slug ≠ slug) ↔
      Slug.choice? base now (s.slugsBut none) ≠ none := by
  rw [Ne, Slug.choice?_eq_none_iff]
  push Not
  refine exists_congr fun slug => and_congr_right fun _ => ?_
  rw [mem_slugsBut]
  simp

theorem Work.createArticle_fails_iff (hs : s.Sound) {authorId : Int} {draft : ArticleDraft}
    {now : Instant} :
    (∃ cause, (outcome (createArticle authorId draft now) s).1 = .error (.database cause)) ↔
      (∀ u ∈ s.users, u.id ≠ authorId) ∧ s.HasFreeSlug draft.title now := by
  rw [Store.HasFreeSlug, Store.exists_free_iff]
  by_cases htitle : Slug.ofTitle draft.title = ""
  · rw [outcome_createArticle_of_no_slug htitle]
    simp [htitle]
  by_cases hauthor : ∃ u ∈ s.users, u.id = authorId
  · obtain ⟨u, hu, rfl⟩ := hauthor
    rw [outcome_createArticle hs hu htitle]
    constructor
    · rintro ⟨cause, hcause⟩
      split at hcause
      · exact nomatch hcause
      · exact nomatch hcause
    · rintro ⟨hmissing, -⟩
      exact absurd rfl (hmissing u hu)
  · rw [outcome_createArticle_of_no_author hauthor]
    have hmissing : ∀ u ∈ s.users, u.id ≠ authorId := fun u hu hid => hauthor ⟨u, hu, hid⟩
    cases Slug.choice? (Slug.ofTitle draft.title) now.seconds.toNat (s.slugsBut none) with
    | none => simp [htitle]
    | some slug => simpa [htitle] using hmissing

theorem Work.createComment_fails_iff (hs : s.Sound) {a : Article} (ha : a ∈ s.articles)
    {authorId : Int} {body : String} {now : Instant} :
    (∃ cause, (outcome (createComment a.id authorId body now) s).1 = .error (.database cause)) ↔
      ∀ u ∈ s.users, u.id ≠ authorId := by
  by_cases hauthor : ∃ u ∈ s.users, u.id = authorId
  · obtain ⟨u, hu, rfl⟩ := hauthor
    rw [outcome_createComment hs ha hu]
    constructor
    · rintro ⟨cause, hcause⟩
      exact nomatch hcause
    · intro hmissing
      exact absurd rfl (hmissing u hu)
  · rw [outcome_createComment_of_missing fun h => hauthor h.1]
    have hmissing : ∀ u ∈ s.users, u.id ≠ authorId := fun u hu hid => hauthor ⟨u, hu, hid⟩
    exact iff_of_true ⟨_, rfl⟩ hmissing

/-- The request adds something for a user who is not in the table, and nothing else is wrong. -/
inductive Visit.Strands (v : Visit) (s : Store) : Prop
  | publish {p : Principal} {draft : ArticleDraft} (hmethod : v.request.method = .post)
      (hroute : Route.ofPath? v.request.path = some .articles)
      (hp : IsFor v.app.shared v.moment v.request p)
      (hdraft : IsPayload articleDraft v.request draft)
      (hmissing : ∀ u ∈ s.users, u.id ≠ p.userId)
      (hslug : s.HasFreeSlug draft.title v.moment.now)
  | remark {p : Principal} {raw : String} {draft : CommentDraft} {a : Article}
      (hmethod : v.request.method = .post)
      (hroute : Route.ofPath? v.request.path = some (.comments raw))
      (hp : IsFor v.app.shared v.moment v.request p)
      (hdraft : IsPayload commentDraft v.request draft)
      (hmissing : ∀ u ∈ s.users, u.id ≠ p.userId)
      (ha : a ∈ s.articles) (hraw : parameter? raw = some a.slug)

theorem Visit.Strands.exists_route (h : v.Strands s) :
    ∃ route, Route.ofPath? v.request.path = some route ∧
      route.addsContent v.request.method = true ∧ v.request.method ∈ route.methods := by
  cases h with
  | publish hmethod hroute =>
      exact ⟨_, hroute, by simp [Route.addsContent, hmethod], by simp [Route.methods, hmethod]⟩
  | remark hmethod hroute =>
      exact ⟨_, hroute, by simp [Route.addsContent, hmethod], by simp [Route.methods, hmethod]⟩

theorem Visit.Strands.addsContent (h : v.Strands s) {route : Route}
    (hroute : Route.ofPath? v.request.path = some route) :
    route.addsContent v.request.method = true := by
  obtain ⟨route', hroute', hadds, -⟩ := h.exists_route
  rwa [Option.some.inj (hroute.symm.trans hroute')]

namespace Visit.IsRegular

variable {route : Route} {handler : Handler}

theorem fails_create_iff (hv : v.IsRegular) (hsound : s.Sound) (hs : s.Hashed)
    (hmethod : v.request.method = .post)
    (hroute : Route.ofPath? v.request.path = some .articles) :
    Fails (Articles.create v.app.shared v.moment v.request) s ↔ v.Strands s := by
  rw [Articles.create, fails_bind_iff hv.tolerates.settles_principal (reads_principal _ _ _) hs]
  simp only [fails_bind_iff (hv.tolerates.settles_payload _) (reads_payload _ _) hs,
    fails_work_iff, Work.createArticle_fails_iff hsound]
  constructor
  · rintro ⟨p, hp, draft, hdraft, hmissing, hslug⟩
    exact .publish hmethod hroute (ofExcept_eq_ok hp) (payload_eq_ok hdraft) hmissing hslug
  · intro hstrands
    cases hstrands with
    | @publish p draft _ _ hp hdraft hmissing hslug =>
        exact ⟨p, outcome_principal hp s, draft, outcome_payload hdraft s, hmissing, hslug⟩
    | remark _ hroute' => cases hroute.symm.trans hroute'

theorem fails_comment_iff (hv : v.IsRegular) (hsound : s.Sound) (hs : s.Hashed) {raw : String}
    (hmethod : v.request.method = .post)
    (hroute : Route.ofPath? v.request.path = some (.comments raw)) :
    Fails (Articles.comment v.app.shared v.moment v.request raw) s ↔ v.Strands s := by
  have hparameter : Settles (.of Store.Hashed) RequestError.IsExternal (fun _ => True)
      (parameter "slug" raw) :=
    settles_parameter fun _ => (by decide : 400 ≠ 500)
  rw [Articles.comment, fails_bind_iff hv.tolerates.settles_principal (reads_principal _ _ _) hs]
  simp only [fails_bind_iff hparameter (reads_parameter _ _) hs,
    fails_bind_iff (hv.tolerates.settles_payload _) (reads_payload _ _) hs,
    fails_bind_iff (hv.tolerates.settles_load _) (Articles.reads_load _) hs, fails_work_iff]
  constructor
  · rintro ⟨p, hp, slug, hslug, draft, hdraft, row, hrow, hfails⟩
    obtain ⟨hmem, rfl⟩ := Articles.load_eq_ok hrow
    obtain ⟨ha, -⟩ := Store.of_mem_authoredArticles hmem
    exact .remark hmethod hroute (ofExcept_eq_ok hp) (payload_eq_ok hdraft)
      ((Work.createComment_fails_iff hsound ha).mp hfails) ha (parameter_eq_ok hslug)
  · intro hstrands
    cases hstrands with
    | publish _ hroute' => cases hroute.symm.trans hroute'
    | @remark p _ draft a _ hroute' hp hdraft hmissing ha hraw =>
        cases hroute.symm.trans hroute'
        obtain ⟨author, hload⟩ := Articles.outcome_load hsound ha
        exact ⟨p, outcome_principal hp s, a.slug, outcome_parameter hraw "slug" s, draft,
          outcome_payload hdraft s, _, hload, (Work.createComment_fails_iff hsound ha).mpr hmissing⟩

theorem not_fails_of_addsContent (hv : v.IsRegular) (hs : s.Hashed)
    (hroute : Route.ofPath? v.request.path = some route) (hhealth : route ≠ .health)
    (hhandler : Application.handler? v.app.shared v.moment v.request route = some handler)
    (hadds : route.addsContent v.request.method = false) : ¬ Fails handler s := by
  have hsettles := hv.tolerates.settles_handler hhealth hhandler
    (fun hadds' => nomatch hadds.symm.trans hadds')
    (fun name raw _ _ _ => (by decide : 400 ≠ 500))
  rintro ⟨e, he, hstatus⟩
  have hafter := fun q s hq (hs : Store.Hashed s) => hv.hashed_after (q := q) hq hs
  rcases hsettles.outcome (Visit.asks_handler hroute hhandler) hafter hs with
    ⟨told, htold, -⟩ | ⟨e', he', hexternal⟩
  · exact nomatch he.symm.trans htold
  · obtain rfl := Except.error.inj (he.symm.trans he')
    exact hexternal hstatus

theorem fails_iff_strands (hv : v.IsRegular) (hsound : s.Sound) (hs : s.Hashed)
    (hroute : Route.ofPath? v.request.path = some route) (hhealth : route ≠ .health)
    (hhandler : Application.handler? v.app.shared v.moment v.request route = some handler) :
    Fails handler s ↔ v.Strands s := by
  have hnothing (hadds : route.addsContent v.request.method = false) :
      Fails handler s ↔ v.Strands s :=
    iff_of_false (hv.not_fails_of_addsContent hs hroute hhealth hhandler hadds)
      fun hstrands => nomatch hadds.symm.trans (hstrands.addsContent hroute)
  -- only the two operations that add something have to be followed to their end
  cases Application.serves_of_handler? hhandler with
  | publish hmethod => exact hv.fails_create_iff hsound hs hmethod hroute
  | remark hmethod slug => exact hv.fails_comment_iff hsound hs hmethod hroute
  | list hmethod | comments slug hmethod =>
      refine hnothing ?_
      rcases hmethod with hmethod | hmethod <;> simp [Route.addsContent, hmethod]
  | _ => exact hnothing rfl

end Visit.IsRegular

theorem tolerates_true (A : Answers) (shared : Shared) (m : Moment) :
    Tolerates A shared m fun _ => True := by
  constructor <;> intros <;> first | trivial | exact fun _ _ => .inr trivial

theorem isSuccess_of_outcome {route : Route} {handler : Handler} {response : Response}
    (hroute : Route.ofPath? v.request.path = some route) (hhealth : route ≠ .health)
    (hhandler : Application.handler? v.app.shared v.moment v.request route = some handler)
    (h : (outcome handler s).1 = .ok response) : response.IsSuccess := by
  have hsettles := (tolerates_true (.of fun _ => True) v.app.shared v.moment).settles_handler hhealth
    hhandler (fun _ _ _ _ => .inr trivial) (fun _ _ _ _ _ => trivial)
  rcases hsettles.outcome (Visit.asks_handler hroute hhandler) (fun _ _ _ _ => trivial) trivial with
    ⟨told, htold, hsuccess⟩ | ⟨e, he, -⟩
  · exact Except.ok.inj (h.symm.trans htold) ▸ hsuccess
  · exact nomatch h.symm.trans he

theorem Visit.status_eq_iff {route : Route} {handler : Handler}
    (hroute : Route.ofPath? v.request.path = some route) (hhealth : route ≠ .health)
    (hhandler : Application.handler? v.app.shared v.moment v.request route = some handler) :
    (v.work.run s).1.status = 500 ↔ Fails handler s := by
  rw [Visit.work, Application.run_respond v.app hroute hhandler s, Fails]
  cases houtcome : (outcome handler s).1 with
  | error e =>
      constructor
      · exact fun h => ⟨e, rfl, h⟩
      · rintro ⟨e', he, h⟩
        obtain rfl := Except.error.inj he
        exact h
  | ok response =>
      have hsuccess := isSuccess_of_outcome hroute hhealth hhandler houtcome
      constructor
      · intro h
        have hstatus : response.status = 500 := h
        rw [Response.IsSuccess, hstatus] at hsuccess
        exact absurd hsuccess (by decide)
      · rintro ⟨e, he, -⟩
        cases he

theorem Visit.status_of_health {handler : Handler}
    (hroute : Route.ofPath? v.request.path = some .health)
    (hhandler : Application.handler? v.app.shared v.moment v.request .health = some handler) :
    (v.work.run s).1.status = 200 := by
  rw [Visit.work, Application.run_respond v.app hroute hhandler s]
  cases Application.serves_of_handler? hhandler
  rfl

theorem Visit.exists_handler_of_status (h : (v.work.run s).1.status = 500) :
    ∃ route handler, Route.ofPath? v.request.path = some route ∧
      Application.handler? v.app.shared v.moment v.request route = some handler := by
  cases hroute : Route.ofPath? v.request.path with
  | none =>
      rw [Visit.work, Application.respond, Application.handle, hroute] at h
      simp only at h
      split at h
      · exact absurd h (by decide : 200 ≠ 500)
      · exact absurd h (by decide : 404 ≠ 500)
  | some route =>
      cases hhandler : Application.handler? v.app.shared v.moment v.request route with
      | some handler => exact ⟨route, handler, rfl, hhandler⟩
      | none =>
          rw [Visit.work, Application.respond, Application.handle, hroute] at h
          simp only [hhandler] at h
          split at h
          · exact absurd h (by decide : 200 ≠ 500)
          · exact absurd h (by decide : 405 ≠ 500)

theorem Visit.IsRegular.status_eq_iff_strands (hv : v.IsRegular) (hsound : s.Sound)
    (hs : s.Hashed) : (v.work.run s).1.status = 500 ↔ v.Strands s := by
  constructor
  · intro hstatus
    obtain ⟨route, handler, hroute, hhandler⟩ := Visit.exists_handler_of_status hstatus
    have hhealth : route ≠ .health := by
      rintro rfl
      rw [Visit.status_of_health hroute hhandler] at hstatus
      exact absurd hstatus (by decide)
    rw [Visit.status_eq_iff hroute hhealth hhandler] at hstatus
    exact (hv.fails_iff_strands hsound hs hroute hhealth hhandler).mp hstatus
  · intro hstrands
    obtain ⟨route, hroute, hadds, hmethod⟩ := hstrands.exists_route
    obtain ⟨handler, hhandler⟩ :=
      Application.exists_handler? v.app.shared v.moment hmethod
    have hhealth : route ≠ .health := by
      rintro rfl
      cases hadds
    rw [Visit.status_eq_iff hroute hhealth hhandler]
    exact (hv.fails_iff_strands hsound hs hroute hhealth hhandler).mpr hstrands

theorem exists_user_of_ok {shared : Shared} {m : Moment} {r : Request} {route : Route}
    {handler : Handler} {response : Response} {s' : Store} (hsound : s.Sound)
    (hhandler : Application.handler? shared m r route = some handler)
    (hprivate : route.isPrivate r.method = true)
    (h : outcome handler s = (.ok response, s')) :
    ∃ p, IsFor shared m r p ∧ ∃ u ∈ s.users, u.id = p.userId := by
  cases Application.serves_of_handler? hhandler with
  | health | register | login | profile => cases hprivate
  | list hmethod | article slug hmethod | comments slug hmethod =>
      rcases hmethod with hmethod | hmethod <;> simp [Route.isPrivate, hmethod] at hprivate
  | current =>
      obtain ⟨p, u, hp, hfind, -⟩ := Accounts.current_eq_ok h
      exact ⟨p, hp, Store.isSome_user?_iff.mp (Option.isSome_of_eq_some hfind)⟩
  | changeAccount =>
      obtain ⟨p, u, hp, -, ⟨hfind, -⟩ | ⟨columns, hupdate⟩⟩ := Accounts.update_eq_ok h
      · exact ⟨p, hp, Store.isSome_user?_iff.mp (Option.isSome_of_eq_some hfind)⟩
      · rcases Store.updateUser_eq_ok hupdate with ⟨-, hnone, -⟩ | ⟨old, hfind, -⟩
        · cases hnone
        · exact ⟨p, hp, Store.isSome_user?_iff.mp (Option.isSome_of_eq_some hfind)⟩
  | publish =>
      obtain ⟨p, slug, draft, hp, u, hu, hup, -⟩ := Articles.create_eq_ok hsound h
      exact ⟨p, hp, u, hu, hup⟩
  | revise =>
      obtain ⟨p, hp, a, ha, hauthor, -⟩ := Articles.update_eq_ok hsound h
      exact ⟨p, hp, hauthor ▸ hsound.articleAuthors a ha⟩
  | retract =>
      obtain ⟨p, hp, a, ha, hauthor, -⟩ := Articles.delete_eq_ok h
      exact ⟨p, hp, hauthor ▸ hsound.articleAuthors a ha⟩
  | remark =>
      obtain ⟨p, hp, a, ha, u, hu, hup, -⟩ := Articles.comment_eq_ok hsound h
      exact ⟨p, hp, u, hu, hup⟩
  | withdraw =>
      obtain ⟨p, hp, a, ha, c, hc, hauthor, -⟩ := Articles.deleteComment_eq_ok h
      exact ⟨p, hp, hauthor ▸ hsound.commentAuthors c hc⟩

theorem Visit.refused_of_missing {route : Route} {p : Principal} (hsound : s.Sound)
    (hp : IsFor v.app.shared v.moment v.request p) (hmissing : ∀ u ∈ s.users, u.id ≠ p.userId)
    (hroute : Route.ofPath? v.request.path = some route)
    (hmethod : v.request.method ∈ route.methods)
    (hprivate : route.isPrivate v.request.method = true) :
    400 ≤ (v.work.run s).1.status ∧ (v.work.run s).1.status ≤ 500 := by
  obtain ⟨handler, hhandler⟩ := Application.exists_handler? v.app.shared v.moment hmethod
  rw [Visit.work, Application.run_respond v.app hroute hhandler s]
  rcases houtcome : outcome handler s with ⟨e | response, s'⟩
  · exact ⟨e.le_status, e.status_le⟩
  · obtain ⟨p', hp', u, hu, hup⟩ := exists_user_of_ok hsound hhandler hprivate houtcome
    obtain rfl : p = p' := Except.ok.inj (hp.symm.trans hp')
    exact absurd hup (hmissing u hu)

end

/-- On a database that works, whatever requests are answered at a time, a request is answered with
an internal error if and only if it adds something for a user who is not in the table, and nothing
else is wrong. All else that is asked for such a user is refused as an error of the client. -/
theorem internal_error_iff_strands {events : List Desk.Event}
    (hevents : ∀ v, .arrive v ∈ events → v.IsRegular) {v : Visit} (hv : v.IsRegular) :
    ((v.work.run (Desk.run events).store).1.status = 500 ↔ v.Strands (Desk.run events).store) ∧
      ∀ {p : Principal} {route : Route}, IsFor v.app.shared v.moment v.request p →
        (∀ u ∈ (Desk.run events).store.users, u.id ≠ p.userId) →
        Route.ofPath? v.request.path = some route → v.request.method ∈ route.methods →
        route.isPrivate v.request.method = true → ¬ v.Strands (Desk.run events).store →
        400 ≤ (v.work.run (Desk.run events).store).1.status ∧
          (v.work.run (Desk.run events).store).1.status < 500 := by
  have hsound := Desk.sound_run events
  have hhashed : (Desk.run events).store.Hashed :=
    Desk.of_calls Store.hashed_empty fun u hu _ _ hq hs => (hevents u hu).hashed_after hq hs
  have hstrands := hv.status_eq_iff_strands hsound hhashed
  refine ⟨hstrands, fun hp hmissing hroute hmethod hprivate hnot => ?_⟩
  obtain ⟨hleast, hmost⟩ := Visit.refused_of_missing hsound hp hmissing hroute hmethod hprivate
  exact ⟨hleast, Nat.lt_of_le_of_ne hmost (mt hstrands.mp hnot)⟩

namespace Sample

theorem isRegular_regular (r : Request) : (regular r).IsRegular where
  settings :=
    let settings : Settings :=
      { Settings.default with
        tokenSecret := "secret", tokenLifetime := ⟨3600, 0⟩, hashCost := 4, origins := ["*"] }
    ⟨settings, "", by decide, rfl⟩
  salt := rfl

theorem isFor_regular {r : Request} (hr : r.values "authorization" = ["Token " ++ token]) :
    IsFor (regular r).app.shared (regular r).moment r ⟨1, "alice", token⟩ := by
  rw [IsFor, hr]
  exact ofHeaders_token

def showAccount : Request := ⟨.get, "/api/user", "", asAlice, []⟩

theorem strands_publish : (regular (publish "Hello")).Strands .empty := by
  have hdraft : IsPayload articleDraft (publish "Hello") ⟨"Hello", "d", "b"⟩ :=
    ⟨by decide +kernel, by decide⟩
  exact .publish rfl route_publish (isFor_regular rfl) hdraft nofun
    ⟨by decide, _, List.mem_cons_self, nofun⟩

theorem regular_of_arrive {r : Request} {v : Visit}
    (hv : Desk.Event.arrive v ∈ [Desk.Event.arrive (regular r)]) : v.IsRegular := by
  rw [Desk.Event.arrive.inj (List.mem_singleton.mp hv)]
  exact isRegular_regular r

end Sample

open Sample in
/-- Before anybody has registered, `alice` is told of an internal error where she publishes an
article, and of one of her own where she asks for her account. -/
theorem internal_error_iff_strands_alice :
    ((regular (publish "Hello")).work.run
        (Desk.run [.arrive (regular showAccount)]).store).1.status = 500 ∧
      400 ≤ ((regular showAccount).work.run
        (Desk.run [.arrive (regular showAccount)]).store).1.status ∧
      ((regular showAccount).work.run
        (Desk.run [.arrive (regular showAccount)]).store).1.status < 500 := by
  constructor
  · exact (internal_error_iff_strands (fun _ => regular_of_arrive)
      (isRegular_regular (publish "Hello"))).1.mpr strands_publish
  · have hroute : Route.ofPath? (regular showAccount).request.path = some .user := by decide
    refine (internal_error_iff_strands (fun _ => regular_of_arrive)
      (isRegular_regular showAccount)).2 (isFor_regular rfl) nofun hroute (by decide) rfl ?_
    intro hstrands
    exact nomatch hstrands.addsContent hroute

open Sample in
theorem not_without_internal_errors :
    ¬ ∀ (events : List Desk.Event) (v : Visit), (∀ v, .arrive v ∈ events → v.IsRegular) →
      v.IsRegular → (v.work.run (Desk.run events).store).1.status ≠ 500 := by
  intro h
  have hstrands := (isRegular_regular (publish "Hello")).status_eq_iff_strands Store.sound_empty
    Store.hashed_empty
  have hstore : (Desk.run []).store = .empty := rfl
  have hexternal := h [] (regular (publish "Hello")) nofun (isRegular_regular _)
  rw [hstore] at hexternal
  exact hexternal (hstrands.mpr strands_publish)

end Weblog
