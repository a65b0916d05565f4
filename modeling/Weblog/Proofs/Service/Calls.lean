import Weblog.Proofs.Service.Desk
import Weblog.Proofs.Store.Operation

namespace Weblog

open Session Handler

/-- The statement reads, or it writes what the payload of the request says. -/
inductive Visit.CallsFor (v : Visit) : Statement → Prop
  | read {q : Statement} (hq : q.isRead = true) : CallsFor v q
  | register {draft : Registration} {passwordHash : String} (hmethod : v.request.method = .post)
      (hroute : Route.ofPath? v.request.path = some .users)
      (hdraft : IsPayload registration v.request draft)
      (hhash : v.app.shared.passwords.hash v.moment.salt v.app.shared.hashCost draft.password =
        .ok passwordHash) :
      CallsFor v (.insertUser draft.username draft.email passwordHash v.moment.now)
  | changeAccount {id : Int} {changes : AccountChanges} {passwordHash : Option String}
      (hmethod : v.request.method = .put) (hroute : Route.ofPath? v.request.path = some .user)
      (hchanges : IsPayload accountChanges v.request changes)
      (hhash : changes.password.mapM
        (v.app.shared.passwords.hash v.moment.salt v.app.shared.hashCost) = .ok passwordHash) :
      CallsFor v (.updateUser id
        ⟨changes.username, changes.email, passwordHash, changes.bio, changes.image⟩ v.moment.now)
  | publish {slug : String} {draft : ArticleDraft} {authorId : Int}
      (hdraft : IsPayload articleDraft v.request draft) :
      CallsFor v (.insertArticle slug draft authorId v.moment.now)
  | revise {id : Int} {slug : String} {changes : ArticleChanges}
      (hchanges : IsPayload articleChanges v.request changes) :
      CallsFor v (.updateArticle id slug changes v.moment.now)
  | retract (id : Int) : CallsFor v (.deleteArticle id)
  | remark {articleId authorId : Int} {draft : CommentDraft}
      (hdraft : IsPayload commentDraft v.request draft) :
      CallsFor v (.insertComment articleId authorId draft.body v.moment.now)
  | withdraw (id : Int) : CallsFor v (.deleteComment id)

section

variable {P : Statement → Prop} {shared : Shared} {m : Moment} {r : Request}

theorem asks_payload (kind : PayloadKind α) (r : Request) :
    Asks P (IsPayload kind r) (payload kind r) := by
  rw [payload]
  split
  · exact asks_throw _
  · rename_i a hread
    split
    · rename_i hvalid
      exact asks_pure ⟨hread, hvalid⟩
    · exact asks_throw _

theorem asks_ofExcept (toError : ε → RequestError) (x : Except ε α) :
    Asks P (fun a => x = .ok a) (ofExcept toError x) := by
  cases x with
  | error e => exact asks_throw _
  | ok a => exact asks_pure rfl

theorem asks_workWith_pure (toError : StoreError → RequestError) {w : Work α}
    (hw : Asks P (fun _ => True) w) (answer : α → Response) :
    Asks P (fun _ => True) (workWith toError w >>= fun a => (pure (answer a) : Handler)) :=
  (asks_workWith toError hw).bind fun _ _ => asks_pure trivial

theorem asks_hashes (password : Option String) :
    Asks P (fun hash => password.mapM (shared.passwords.hash m.salt shared.hashCost) = .ok hash)
      (password.mapM (Accounts.hash shared m)) := by
  cases password with
  | none => exact asks_pure rfl
  | some password =>
      refine (asks_ofExcept _ _).bind fun hash hhash => asks_pure ?_
      rw [Option.mapM_some, hhash]
      rfl

end

namespace Visit

variable {v : Visit}

theorem asks_of_reads {w : ExceptT RequestError Session α} (hw : Reads w) :
    Asks v.CallsFor (fun _ => True) w :=
  Asks.imp hw fun _ => .read

theorem asks_register (hmethod : v.request.method = .post)
    (hroute : Route.ofPath? v.request.path = some .users) :
    Asks v.CallsFor (fun _ => True) (Accounts.register v.app.shared v.moment v.request) := by
  refine (asks_payload _ _).bind fun draft hdraft => ?_
  refine (asks_of_reads (reads_work (reads_ask rfl))).bind fun byEmail _ => ?_
  refine (asks_of_reads (Accounts.reads_refuseIf _ _)).bind fun _ _ => ?_
  refine (asks_of_reads (reads_work (reads_ask rfl))).bind fun byName _ => ?_
  refine (asks_of_reads (Accounts.reads_refuseIf _ _)).bind fun _ _ => ?_
  refine (asks_ofExcept _ _).bind fun passwordHash hhash => ?_
  refine asks_workWith_pure _ ?_ _
  exact Work.asks_createUser (fun _ => .read) (.register hmethod hroute hdraft hhash)

theorem asks_changeAccount (hmethod : v.request.method = .put)
    (hroute : Route.ofPath? v.request.path = some .user) :
    Asks v.CallsFor (fun _ => True) (Accounts.update v.app.shared v.moment v.request) := by
  refine (asks_of_reads (reads_principal _ _ _)).bind fun p _ => ?_
  refine (asks_payload _ _).bind fun changes hchanges => ?_
  cases changes.isEmpty with
  | true =>
      refine asks_of_reads ?_
      exact (reads_work (reads_ask rfl)).bind fun _ => (reads_found _ _).bind fun _ => reads_pure _
  | false =>
      refine (asks_of_reads
        (Accounts.reads_refuseForeign _ _ (fun _ => reads_ask rfl) _)).bind fun _ _ => ?_
      refine (asks_of_reads
        (Accounts.reads_refuseForeign _ _ (fun _ => reads_ask rfl) _)).bind fun _ _ => ?_
      refine (asks_hashes _).bind fun passwordHash hhash => ?_
      refine asks_workWith_pure _ ?_ _
      exact Work.asks_updateUser (fun _ => .read) (.changeAccount hmethod hroute hchanges hhash)

theorem asks_publish :
    Asks v.CallsFor (fun _ => True) (Articles.create v.app.shared v.moment v.request) := by
  refine (asks_of_reads (reads_principal _ _ _)).bind fun p _ => ?_
  refine (asks_payload _ _).bind fun draft hdraft => ?_
  refine asks_workWith_pure _ ?_ _
  exact Work.asks_createArticle (fun _ => .read) fun slug _ => .publish hdraft

theorem asks_revise (raw : String) :
    Asks v.CallsFor (fun _ => True) (Articles.update v.app.shared v.moment v.request raw) := by
  refine (asks_of_reads (reads_principal _ _ _)).bind fun p _ => ?_
  refine (asks_of_reads (reads_parameter _ _)).bind fun slug _ => ?_
  refine (asks_of_reads (Articles.reads_loadOwn _ _)).bind fun own _ => ?_
  refine (asks_payload _ _).bind fun changes hchanges => ?_
  refine asks_workWith_pure _ ?_ _
  exact Work.asks_updateArticle (fun _ => .read) fun slug _ => .revise hchanges

theorem asks_retract (raw : String) :
    Asks v.CallsFor (fun _ => True) (Articles.delete v.app.shared v.moment v.request raw) := by
  refine (asks_of_reads (reads_principal _ _ _)).bind fun p _ => ?_
  refine (asks_of_reads (reads_parameter _ _)).bind fun slug _ => ?_
  refine (asks_of_reads (Articles.reads_loadOwn _ _)).bind fun own _ => ?_
  exact asks_workWith_pure _ (Work.asks_deleteArticle (.retract _)) _

theorem asks_remark (raw : String) :
    Asks v.CallsFor (fun _ => True) (Articles.comment v.app.shared v.moment v.request raw) := by
  refine (asks_of_reads (reads_principal _ _ _)).bind fun p _ => ?_
  refine (asks_of_reads (reads_parameter _ _)).bind fun slug _ => ?_
  refine (asks_payload _ _).bind fun draft hdraft => ?_
  refine (asks_of_reads (Articles.reads_load _)).bind fun a _ => ?_
  refine asks_workWith_pure _ ?_ _
  exact Work.asks_createComment (fun _ => .read) (.remark hdraft)

theorem asks_withdraw (raw rawId : String) :
    Asks v.CallsFor (fun _ => True)
      (Articles.deleteComment v.app.shared v.moment v.request raw rawId) := by
  refine (asks_of_reads (reads_principal _ _ _)).bind fun p _ => ?_
  cases Articles.commentParameters? raw rawId with
  | none => exact asks_throw _
  | some parameters =>
      refine (asks_of_reads (Articles.reads_load _)).bind fun a _ => ?_
      refine (asks_of_reads (reads_work (reads_ask rfl))).bind fun row _ => ?_
      refine (asks_ofExcept _ _).bind fun own _ => ?_
      exact asks_workWith_pure _ (Work.asks_deleteComment (.withdraw _)) _

theorem asks_handler {route : Route} {handler : Handler}
    (hroute : Route.ofPath? v.request.path = some route)
    (h : Application.handler? v.app.shared v.moment v.request route = some handler) :
    Asks v.CallsFor (fun _ => True) handler := by
  cases Application.serves_of_handler? h with
  | health => exact asks_of_reads (Application.reads_checkHealth _)
  | register hmethod => exact asks_register hmethod hroute
  | login => exact asks_of_reads (Accounts.reads_login _)
  | current => exact asks_of_reads (Accounts.reads_current _)
  | changeAccount hmethod => exact asks_changeAccount hmethod hroute
  | profile username => exact asks_of_reads (Accounts.reads_profile username)
  | list => exact asks_of_reads (Articles.reads_list _)
  | publish => exact asks_publish
  | article slug => exact asks_of_reads (Articles.reads_get slug)
  | revise hmethod slug => exact asks_revise slug
  | retract hmethod slug => exact asks_retract slug
  | comments slug => exact asks_of_reads (Articles.reads_comments slug)
  | remark hmethod slug => exact asks_remark slug
  | withdraw hmethod slug id => exact asks_withdraw slug id

theorem only_work (v : Visit) : v.work.Only v.CallsFor fun _ => True := by
  refine Only.bind (Q := fun _ => True) ?_ fun _ _ => trivial
  rw [Application.handle]
  split
  · trivial
  · rename_i route hroute
    split
    · trivial
    · split
      · rename_i handler hhandler
        rw [Application.finish_eq_map]
        exact (asks_handler hroute hhandler).only.bind fun _ _ => trivial
      · trivial

end Visit

namespace Desk

/-- The request that comes in at the event, if one does. -/
def Event.visit? : Event → Option Visit
  | .arrive v => some v
  | .serve _ => none

theorem visits_run (events : List Event) :
    (run events).jobs.map Job.visit = events.filterMap Event.visit? := by
  induction events using List.reverseRecOn with
  | nil => rfl
  | append_singleton events e ih =>
      rw [run_append, List.filterMap_append, ← ih]
      cases e with
      | arrive v => simp [next_arrive, Event.visit?, Visit.job]
      | serve i =>
          rcases next_serve_cases (run events) i with
            hsame | ⟨before, after, v, past, q, next, hjobs, hnext⟩
          · simp [hsame, Event.visit?]
          · simp [hnext, hjobs, Event.visit?]

theorem visit_mem_run {events : List Event} {job : Job} (hjob : job ∈ (run events).jobs) :
    Event.arrive job.visit ∈ events := by
  have hmem := List.mem_map_of_mem (f := Job.visit) hjob
  rw [visits_run] at hmem
  obtain ⟨e, he, hvisit⟩ := List.mem_filterMap.mp hmem
  cases e with
  | arrive v => exact Option.some.inj hvisit ▸ he
  | serve i => exact nomatch hvisit

theorem only_run (events : List Event) :
    ∀ job ∈ (run events).jobs, job.rest.Only job.visit.CallsFor fun _ => True := by
  refine run_induction
    (P := fun d => ∀ job ∈ d.jobs, job.rest.Only job.visit.CallsFor fun _ => True)
    (List.forall_mem_nil _) ?_ ?_ events
  · intro s jobs journal v ih job hjob
    rcases List.mem_append.mp hjob with hjob | hjob
    · exact ih job hjob
    · rw [List.mem_singleton.mp hjob]
      exact v.only_work
  · intro s before after journal v past q next ih job hjob
    rw [List.forall_mem_append, List.forall_mem_cons] at ih
    rcases List.mem_append.mp hjob with hjob | hjob
    · exact ih.1 job hjob
    · rcases List.mem_cons.mp hjob with rfl | hjob
      · exact ih.2.1.2 _
      · exact ih.2.2 job hjob

/-- What holds of a new store, and what no statement breaks that one of the requests calls for,
holds after all events. -/
theorem of_calls {I : Store → Prop} {events : List Event} (hempty : I .empty)
    (hafter : ∀ v, .arrive v ∈ events → ∀ {q s}, v.CallsFor q → I s → I (q.after s)) :
    I (run events).store := by
  induction events using List.reverseRecOn with
  | nil => exact hempty
  | append_singleton events e ih =>
      have hbefore := ih fun v hv => hafter v (List.mem_append_left _ hv)
      rw [run_append]
      cases e with
      | arrive v => exact hbefore
      | serve i =>
          rcases next_serve_cases (run events) i with
            hsame | ⟨before, after, v, past, q, next, hjobs, hnext⟩
          · rw [hsame]
            exact hbefore
          · have hjob : (⟨v, past, .query q next⟩ : Job) ∈ (run events).jobs := by
              rw [hjobs]
              exact List.mem_append_right _ List.mem_cons_self
            rw [hnext]
            exact hafter v (List.mem_append_left _ (visit_mem_run hjob))
              (only_run events _ hjob).1 hbefore

end Desk

theorem Reachable.of_calls {I : Store → Prop} (hempty : I .empty)
    (hafter : ∀ (v : Visit) {q s}, v.CallsFor q → I s → I (q.after s)) {s : Store}
    (hs : Reachable s) : I s := by
  obtain ⟨events, rfl⟩ := Desk.reachable_iff_exists_run.mp hs
  exact Desk.of_calls hempty fun v _ => hafter v

end Weblog
