import Weblog.Proofs.Account.Ledger
import Weblog.Proofs.Service.Calls
import Weblog.Proofs.Service.Success

namespace Weblog

open Session Handler Application

theorem Visit.CallsFor.warrants {v : Visit} {q : Statement} (h : v.CallsFor q) : v.Warrants q := by
  cases h with
  | read hq => cases q <;> trivial
  | @register draft passwordHash hmethod hroute hdraft hhash =>
      obtain ⟨-, hemail, hpassword⟩ := Registration.violations_eq_nil_iff.mp hdraft.2
      exact ⟨hemail, draft.password, hpassword, hhash⟩
  | @changeAccount id changes passwordHash hmethod hroute hchanges hhash =>
      obtain ⟨-, hemail, hvalid, -⟩ := AccountChanges.violations_eq_nil_iff.mp hchanges.2
      refine ⟨hemail, fun made hmade => ?_⟩
      obtain rfl := Option.mem_def.mp hmade
      cases hpassword : changes.password with
      | none =>
          rw [hpassword] at hhash
          exact nomatch Except.ok.inj hhash
      | some password =>
          rw [hpassword] at hhash
          obtain ⟨_, hhash, ⟨⟩⟩ := mapM_some_eq_ok hhash
          exact ⟨password, hvalid password hpassword, hhash⟩
  | publish | revise | retract | remark | withdraw => trivial

namespace Session

variable {C : Statement → α → Prop} {Q : α → Prop}

/-- Whatever the store answers, the session ends with `Q`; but once a row of a user has been
written, it ends at once, and with `C`. -/
def Concludes (C : Statement → α → Prop) (Q : α → Prop) : Session α → Prop
  | .done a => Q a
  | .query q next =>
    ∀ x, (q.written? x = none → (next x).Concludes C Q) ∧
      ∀ u, q.written? x = some u → ∃ a, next x = .done a ∧ C q a

theorem Only.bind_concludes {R : β → Prop} {m : Session β} {f : β → Session α}
    (hm : m.Only (fun q => ∀ x, q.written? x = none) R) (hf : ∀ b, R b → (f b).Concludes C Q) :
    (m >>= f).Concludes C Q := by
  induction m with
  | done b => exact hf b hm
  | query q next ih =>
      intro x
      refine ⟨fun _ => ih x (hm.2 x), fun u hu => ?_⟩
      exact nomatch (hm.1 x).symm.trans hu

theorem Only.concludes {R : α → Prop} {m : Session α}
    (hm : m.Only (fun q => ∀ x, q.written? x = none) R) (hR : ∀ a, R a → Q a) :
    m.Concludes C Q := by
  rw [← bind_pure m]
  exact hm.bind_concludes hR

theorem Concludes.map {C' : Statement → β → Prop} {Q' : β → Prop} {m : Session α} {g : α → β}
    (hm : m.Concludes C Q) (hC : ∀ q a, C q a → C' q (g a)) (hQ : ∀ a, Q a → Q' (g a)) :
    (m >>= fun a => pure (g a)).Concludes C' Q' := by
  induction m with
  | done a => exact hQ a hm
  | query q next ih =>
      intro x
      refine ⟨fun hnone => ih x ((hm x).1 hnone), fun u hu => ?_⟩
      obtain ⟨a, hdone, ha⟩ := (hm x).2 u hu
      exact ⟨g a, congrArg (Session.bind · _) hdone, hC q a ha⟩

end Session

namespace Work

/-- The work fails, or a row of a user has been written. -/
abbrev Writes (C : Statement → Prop) (w : Work User) : Prop :=
  w.run.Concludes (fun q x => (∃ u, x = .ok u) ∧ C q) fun x => ∃ e, x = .error e

theorem writes_throw {C : Statement → Prop} (e : StoreError) : Writes C (throw e) :=
  ⟨e, rfl⟩

theorem writes_conflict {C : Statement → Prop} (email : Option String) (except : Option Int) :
    Writes C (conflictingField email except >>= fun field => throw (.conflict field)) := by
  have hquiet := (reads_conflictingField email except).only.imp
    (fun _ => Statement.written?_of_isRead) fun _ h => h
  rw [Writes, ExceptT.run_bind]
  refine hquiet.bind_concludes fun x _ => ?_
  cases x with
  | error e => exact ⟨e, rfl⟩
  | ok field => exact ⟨_, rfl⟩

theorem writes_createUser {C : Statement → Prop} {username email passwordHash : String}
    {now : Instant} (hC : C (.insertUser username email passwordHash now)) :
    Writes C (createUser username email passwordHash now) := by
  intro x
  cases x with
  | ok u => exact ⟨nofun, fun _ _ => ⟨.ok u, rfl, ⟨u, rfl⟩, hC⟩⟩
  | error e =>
      refine ⟨fun _ => ?_, nofun⟩
      cases e with
      | repeated field => exact writes_conflict _ _
      | closed => exact writes_throw _
      | dangling => exact writes_throw _

theorem writes_updateUser {C : Statement → Prop} {id : Int} {changes : UserChanges}
    {now : Instant} (hC : C (.updateUser id changes now)) :
    Writes C (updateUser id changes now) := by
  intro x
  cases x with
  | ok row =>
      cases row with
      | none => exact ⟨fun _ => writes_throw _, nofun⟩
      | some u => exact ⟨nofun, fun _ _ => ⟨.ok u, rfl, ⟨u, rfl⟩, hC⟩⟩
  | error e =>
      refine ⟨fun _ => ?_, nofun⟩
      cases e with
      | repeated field => exact writes_conflict _ _
      | closed => exact writes_throw _
      | dangling => exact writes_throw _

end Work

namespace Visit

variable {v : Visit}

/-- What is told when the handler of the request ends so. -/
def entry (v : Visit) (x : Except RequestError Response) : Entry :=
  ⟨v, complete v.app.audience v.moment v.request (reply x)⟩

/-- Whatever the store answers, the request is answered at once when it has written a row of a user,
and the answer tells what the statement has done; without such a row it tells of no password. -/
def Concludes (v : Visit) (w : Session Response) : Prop :=
  w.Concludes (fun q response => Entry.Settles ⟨v, response⟩ q)
    fun response => Entry.news? ⟨v, response⟩ = none

/-- The same of a handler for the request. -/
structure Tells (v : Visit) (w : Handler) : Prop where
  concludes : w.run.Concludes (fun q x => (v.entry x).Settles q) fun x => (v.entry x).news? = none

theorem news?_of_error (v : Visit) (e : RequestError) : (v.entry (.error e)).news? = none := by
  have hle : 400 ≤ (v.entry (.error e)).response.status := e.le_status
  rw [Entry.news?]
  split
  · exact if_neg (by omega)
  · exact if_neg (by omega)
  · rfl

theorem tells_throw (e : RequestError) : v.Tells (throw e) :=
  ⟨v.news?_of_error e⟩

theorem tells_bind {w : ExceptT RequestError Session α} {R : α → Prop} {f : α → Handler}
    (hw : Asks (fun q => q.isRead = true) R w) (hf : ∀ a, R a → v.Tells (f a)) :
    v.Tells (w >>= f) := by
  constructor
  rw [ExceptT.run_bind]
  have hquiet := hw.only.imp (fun _ => Statement.written?_of_isRead) fun _ h => h
  refine hquiet.bind_concludes fun x hx => ?_
  cases x with
  | error e => exact (tells_throw e).concludes
  | ok a => exact (hf a (hx a rfl)).concludes

theorem tells_workWith {toError : StoreError → RequestError} {w : Work User}
    {C : Statement → Prop} {answer : User → Response} (hw : Work.Writes C w)
    (hC : ∀ q u, C q → (v.entry (.ok (answer u))).Settles q) :
    v.Tells (workWith toError w >>= fun u => pure (answer u)) := by
  constructor
  rw [ExceptT.run_bind, workWith, ExceptT.run_mk, bind_assoc]
  have hmap : (w.run >>= fun x => pure ((x.map answer).mapError toError)).Concludes
      (fun q x => (v.entry x).Settles q) fun x => (v.entry x).news? = none := by
    refine hw.map ?_ ?_
    · rintro q _ ⟨⟨u, rfl⟩, hq⟩
      exact hC q u hq
    · rintro _ ⟨e, rfl⟩
      exact v.news?_of_error _
  convert hmap using 3 with x
  cases x <;> rfl

theorem tells_register (hmethod : v.request.method = .post)
    (hroute : Route.ofPath? v.request.path = some .users) :
    v.Tells (Accounts.register v.app.shared v.moment v.request) := by
  refine tells_bind (asks_payload _ _) fun draft hdraft => ?_
  refine tells_bind (reads_work (reads_ask rfl)) fun byEmail _ => ?_
  refine tells_bind (Accounts.reads_refuseIf _ _) fun _ _ => ?_
  refine tells_bind (reads_work (reads_ask rfl)) fun byName _ => ?_
  refine tells_bind (Accounts.reads_refuseIf _ _) fun _ _ => ?_
  refine tells_bind (asks_ofExcept _ _) fun passwordHash hhash => ?_
  refine tells_workWith (Work.writes_createUser (C := (· = _)) rfl) ?_
  rintro _ u rfl
  refine .opens hdraft hhash ?_
  rw [Entry.news?, entry, hroute, hmethod]
  exact (if_pos rfl).trans (congrArg (Option.map _) hdraft.1)

theorem news?_changeAccount (hmethod : v.request.method = .put)
    (hroute : Route.ofPath? v.request.path = some .user) {p : Principal}
    (hp : IsFor v.app.shared v.moment v.request p) {changes : AccountChanges}
    (hchanges : IsPayload accountChanges v.request changes) (u : User) :
    (v.entry (.ok (Accounts.answer v.app.shared v.moment 200 u))).news? =
      changes.password.map (.changed p.userId) := by
  rw [Entry.news?, entry, hroute, hmethod]
  refine (if_pos rfl).trans ?_
  rw [hp, hchanges.1]

theorem tells_changeAccount (hmethod : v.request.method = .put)
    (hroute : Route.ofPath? v.request.path = some .user) :
    v.Tells (Accounts.update v.app.shared v.moment v.request) := by
  refine tells_bind (asks_ofExcept _ _) fun p hp => ?_
  refine tells_bind (asks_payload _ _) fun changes hchanges => ?_
  have hnews := news?_changeAccount hmethod hroute hp hchanges
  cases hempty : changes.isEmpty with
  | true =>
      -- a request without changes sets no password, so its success tells of none
      obtain rfl := AccountChanges.isEmpty_iff.mp hempty
      refine tells_bind (reads_work (reads_ask rfl)) fun row _ => ?_
      exact tells_bind (reads_found _ _) fun u _ => ⟨hnews u⟩
  | false =>
      refine tells_bind (Accounts.reads_refuseForeign _ _ (fun _ => reads_ask rfl) _) fun _ _ => ?_
      refine tells_bind (Accounts.reads_refuseForeign _ _ (fun _ => reads_ask rfl) _) fun _ _ => ?_
      refine tells_bind (asks_hashes _) fun passwordHash hhash => ?_
      refine tells_workWith (Work.writes_updateUser (C := (· = _)) rfl) ?_
      rintro _ u rfl
      exact .changes hchanges hhash (hnews u)

theorem concludes_work (v : Visit) : v.Concludes v.work := by
  have htells {route : Route} {handler : Handler}
      (hroute : Route.ofPath? v.request.path = some route)
      (hhandler : handler? v.app.shared v.moment v.request route = some handler)
      (hw : v.Tells handler) : v.Concludes v.work := by
    rw [work, respond, handle_of_handler? hroute hhandler, finish_eq_map, bind_assoc]
    exact hw.concludes.map (fun _ _ h => h) fun _ h => h
  by_cases hregister : Route.ofPath? v.request.path = some .users ∧ v.request.method = .post
  · obtain ⟨hroute, hmethod⟩ := hregister
    refine htells hroute ?_ (tells_register hmethod hroute)
    simp only [handler?, hmethod]
    rfl
  by_cases hchange : Route.ofPath? v.request.path = some .user ∧ v.request.method = .put
  · obtain ⟨hroute, hmethod⟩ := hchange
    exact htells hroute (handler?_changeAccount hmethod) (tells_changeAccount hmethod hroute)
  refine (v.only_work.imp (fun q hq => ?_) fun _ h => h).concludes fun response _ => ?_
  · cases hq with
    | read hread => exact Statement.written?_of_isRead hread
    | register hmethod hroute => exact absurd ⟨hroute, hmethod⟩ hregister
    | changeAccount hmethod hroute => exact absurd ⟨hroute, hmethod⟩ hchange
    | publish | revise | retract | remark | withdraw => exact fun _ => rfl
  · rw [Entry.news?]
    split
    · rename_i hroute hmethod
      exact absurd ⟨hroute, hmethod⟩ hregister
    · rename_i hroute hmethod
      exact absurd ⟨hroute, hmethod⟩ hchange
    · rfl

end Visit

namespace Desk

/-- The request that is answered at the event, if one is. -/
def answered? (d : Desk) : Event → Option Entry
  | .arrive v => v.work.result?.map (Entry.mk v)
  | .serve i =>
    match d.jobs[i]? with
    | some ⟨v, _, .query q next⟩ => (next (q.answer d.store)).result?.map (Entry.mk v)
    | _ => none

/-- The requests that are answered from the desk on, in order. -/
def ledgerFrom (d : Desk) : List Event → List Entry
  | [] => []
  | e :: events => (d.answered? e).toList ++ (d.next e).ledgerFrom events

/-- The requests that have been answered after the events, in order. -/
def ledger (events : List Event) : List Entry :=
  start.ledgerFrom events

theorem ledgerFrom_append (d : Desk) (events : List Event) (e : Event) :
    d.ledgerFrom (events ++ [e]) =
      d.ledgerFrom events ++ ((events.foldl next d).answered? e).toList := by
  induction events generalizing d with
  | nil => simp [ledgerFrom]
  | cons first events ih =>
      rw [List.cons_append, ledgerFrom, ledgerFrom, ih, List.append_assoc]
      rfl

theorem ledger_append (events : List Event) (e : Event) :
    ledger (events ++ [e]) = ledger events ++ ((run events).answered? e).toList :=
  ledgerFrom_append start events e

theorem answered?_cases (d : Desk) (e : Event) :
    (d.next e).store = d.store ∧
        (d.answered? e = none ∨ ∃ v : Visit, d.answered? e = v.work.result?.map (Entry.mk v)) ∨
      ∃ v past q next, (⟨v, past, .query q next⟩ : Job) ∈ d.jobs ∧
        (d.next e).store = q.after d.store ∧
        d.answered? e = (next (q.answer d.store)).result?.map (Entry.mk v) := by
  cases e with
  | arrive v => exact .inl ⟨rfl, .inr ⟨v, rfl⟩⟩
  | serve i =>
      cases hjob : d.jobs[i]? with
      | none => exact .inl (by simp [answered?, Desk.next, hjob])
      | some job =>
          obtain ⟨v, past, rest⟩ := job
          cases rest with
          | done response => exact .inl (by simp [answered?, Desk.next, hjob])
          | query q next =>
              refine .inr ⟨v, past, q, next, List.mem_of_getElem? hjob, ?_, ?_⟩
              · simp only [Desk.next, hjob, Turn.after]
              · simp only [answered?, hjob]

theorem concludes_run (events : List Event) : ∀ job ∈ (run events).jobs,
    (∃ response, job.rest = .done response) ∨ job.visit.Concludes job.rest := by
  refine run_induction (P := fun d => ∀ job ∈ d.jobs,
    (∃ response, job.rest = .done response) ∨ job.visit.Concludes job.rest)
    (List.forall_mem_nil _) ?_ ?_ events
  · intro s jobs journal v ih job hjob
    rcases List.mem_append.mp hjob with hjob | hjob
    · exact ih job hjob
    · rw [List.mem_singleton.mp hjob]
      exact .inr v.concludes_work
  · intro s before after journal v past q next ih job hjob
    rw [List.forall_mem_append, List.forall_mem_cons] at ih
    rcases List.mem_append.mp hjob with hjob | hjob
    · exact ih.1 job hjob
    · rcases List.mem_cons.mp hjob with rfl | hjob
      · obtain ⟨response, hdone⟩ | hconcludes := ih.2.1
        · exact nomatch hdone
        · obtain ⟨hquiet, hwrites⟩ := hconcludes (q.answer s)
          cases hwritten : q.written? (q.answer s) with
          | none => exact .inr (hquiet hwritten)
          | some u =>
              obtain ⟨response, hdone, -⟩ := hwrites u hwritten
              exact .inl ⟨response, hdone⟩
      · exact ih.2.2 job hjob

theorem passwords_of_concludes {v : Visit} {w : Session Response} (hw : v.Concludes w)
    (ledger : List Entry) :
    passwords (ledger ++ (w.result?.map (Entry.mk v)).toList) = passwords ledger := by
  cases w with
  | done response =>
      refine (passwords_append ledger ⟨v, response⟩).trans ?_
      exact Passwords.note_of_quiet _ hw
  | query q next => exact congrArg passwords (List.append_nil ledger)

theorem known_run {P : Visit → Prop} {events : List Event}
    (hevents : ∀ v, .arrive v ∈ events → P v) :
    (passwords (ledger events)).Known P (run events).store := by
  induction events using List.reverseRecOn with
  | nil => exact Passwords.Known.empty
  | append_singleton events e ih =>
      have hknown := ih fun v hv => hevents v (List.mem_append_left _ hv)
      rw [ledger_append, run_append]
      rcases answered?_cases (run events) e with
        ⟨hstore, hanswered⟩ | ⟨v, past, q, next, hjob, hstore, hanswered⟩
      · rw [hstore]
        rcases hanswered with hnone | ⟨v, hanswered⟩
        · rwa [hnone, Option.toList_none, List.append_nil]
        · rwa [hanswered, passwords_of_concludes v.concludes_work]
      · have hv := hevents v (List.mem_append_left _ (visit_mem_run hjob))
        obtain ⟨response, hdone⟩ | hconcludes := concludes_run events _ hjob
        · exact nomatch hdone
        obtain ⟨hquiet, hwrites⟩ := hconcludes (q.answer (run events).store)
        rw [hstore, hanswered]
        cases hwritten : q.written? (q.answer (run events).store) with
        | none =>
            rw [passwords_of_concludes (hquiet hwritten)]
            exact hknown.of_not_written hwritten
        | some u =>
            obtain ⟨response, hdone, hsettles⟩ := hwrites u hwritten
            rw [hdone, result?, Option.map_some, Option.toList_some, passwords_append]
            exact hknown.settled (sound_run events) hv hsettles hwritten

end Desk

end Weblog
