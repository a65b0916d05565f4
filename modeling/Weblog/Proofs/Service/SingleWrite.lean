import Weblog.Proofs.Service.Effects

namespace Weblog

open Session

namespace Work

/-- The work ends because a slug would repeat. -/
def IsConflict (x : Except StoreError α) : Prop :=
  x = .error (.conflict .slug)

variable {α : Type}

theorem not_isConflict_ok (a : α) : ¬ IsConflict (.ok a) :=
  nofun

theorem not_isConflict_notFound : ¬ IsConflict (.error .notFound : Except StoreError α) :=
  nofun

theorem not_isConflict_database (e : DatabaseError) :
    ¬ IsConflict (.error (.database e) : Except StoreError α) :=
  nofun

theorem avoids_found (o : Option α) : Avoids IsConflict (found o) := by
  cases o with
  | none => exact avoids_throw not_isConflict_notFound
  | some a => exact avoids_pure (not_isConflict_ok a)

theorem avoids_article (id : Int) : Avoids IsConflict (article id >>= found) :=
  avoids_ask_bind rfl not_isConflict_database avoids_found

theorem writesOnce_createUser (username email passwordHash : String) (now : Instant) :
    WritesOnce IsConflict (createUser username email passwordHash now) := by
  refine writesOnce_attempt_bind (fun e => ?_) fun u => avoids_pure (not_isConflict_ok u)
  cases e with
  | repeated field => exact (reads_conflict _ _).writesOnce
  | closed => exact writesOnce_throw _
  | dangling => exact writesOnce_throw _

theorem writesOnce_updateUser (id : Int) (changes : UserChanges) (now : Instant) :
    WritesOnce IsConflict (updateUser id changes now) := by
  refine writesOnce_attempt_bind (fun e => ?_) fun row => avoids_found row
  cases e with
  | repeated field => exact (reads_conflict _ _).writesOnce
  | closed => exact writesOnce_throw _
  | dangling => exact writesOnce_throw _

theorem writesOnce_createArticle (authorId : Int) (draft : ArticleDraft) (now : Instant) :
    WritesOnce IsConflict (createArticle authorId draft now) := by
  refine (reads_allocateSlug _ _ _).bind_writesOnce fun slug => ?_
  exact writesOnce_attempt_bind (fun _ => writesOnce_throw _) avoids_article

theorem writesOnce_writeRevision (id : Int) (slug : String) (changes : ArticleChanges)
    (now : Instant) : WritesOnce IsConflict (writeRevision id slug changes now) := by
  refine writesOnce_attempt_bind (fun _ => writesOnce_throw _) fun isThere => ?_
  cases isThere with
  | true => exact avoids_article id
  | false => exact avoids_throw not_isConflict_notFound

theorem writesOnce_updateArticle (current : Article) (changes : ArticleChanges) (now : Instant) :
    WritesOnce IsConflict (updateArticle current changes now) := by
  rcases updateArticle_forms current changes now with
    ⟨-, hform⟩ | ⟨-, -, hform⟩ | ⟨title, -, hform⟩ <;> rw [hform]
  · exact (reads_article current.id).writesOnce
  · exact writesOnce_writeRevision _ _ _ _
  · refine (reads_allocateSlug _ _ _).bind_writesOnce fun slug => ?_
    exact writesOnce_writeRevision _ _ _ _

theorem writesOnce_deleteArticle (id : Int) : WritesOnce IsConflict (deleteArticle id) := by
  refine writesOnce_ask_bind fun wasThere => ?_
  cases wasThere with
  | true => exact avoids_pure (not_isConflict_ok ())
  | false => exact avoids_throw not_isConflict_notFound

theorem writesOnce_createComment (articleId authorId : Int) (body : String) (now : Instant) :
    WritesOnce IsConflict (createComment articleId authorId body now) :=
  writesOnce_ask_bind fun _ => avoids_ask_bind rfl not_isConflict_database avoids_found

theorem writesOnce_deleteComment (id : Int) : WritesOnce IsConflict (deleteComment id) := by
  refine writesOnce_ask_bind fun wasThere => ?_
  cases wasThere with
  | true => exact avoids_pure (not_isConflict_ok ())
  | false => exact avoids_throw not_isConflict_notFound

end Work

/-- The answer tells of a conflict. -/
def Response.IsConflict (response : Response) : Prop :=
  response.status = 409

namespace Handler

/-- The handler ends with an answer that tells of a conflict. -/
def IsConflict (x : Except RequestError Response) : Prop :=
  (Application.reply x).IsConflict

theorem writesOnce_workWith {toError : StoreError → RequestError}
    (htoError : ∀ e, (toError e).status = 409 → e = .conflict .slug) {w : Work α}
    (hw : WritesOnce Work.IsConflict w) {answer : α → Response}
    {status : Nat} (hanswer : ∀ a, (answer a).status = status) (hstatus : status ≠ 409) :
    WritesOnce IsConflict (workWith toError w >>= fun a => (pure (answer a) : Handler)) := by
  constructor
  rw [ExceptT.run_bind, workWith, ExceptT.run_mk, bind_assoc]
  refine hw.single.bind (fun x => ?_) fun x hx => ?_
  · cases x with
    | error e => trivial
    | ok a => trivial
  · cases x with
    | error e => exact fun h => hx (congrArg Except.error (htoError e h))
    | ok a => exact fun h => hstatus ((hanswer a).symm.trans h)

theorem eq_conflict_of_toRequestError {e : StoreError} (h : e.toRequestError.status = 409) :
    e = .conflict .slug := by
  cases e with
  | conflict field => cases field <;> first | rfl | exact absurd h (by decide)
  | _ => simp [StoreError.toRequestError, RequestError.status] at h

theorem writesOnce_work {w : Work α} (hw : WritesOnce Work.IsConflict w) {answer : α → Response}
    {status : Nat} (hanswer : ∀ a, (answer a).status = status) (hstatus : status ≠ 409) :
    WritesOnce IsConflict (work w >>= fun a => (pure (answer a) : Handler)) :=
  writesOnce_workWith (fun _ => eq_conflict_of_toRequestError) hw hanswer hstatus

end Handler

open Handler

variable {shared : Shared} {m : Moment}

namespace Accounts

theorem writesOnce_register (r : Request) : WritesOnce IsConflict (register shared m r) := by
  refine (reads_payload _ _).bind_writesOnce fun draft => ?_
  refine (reads_work (reads_ask rfl)).bind_writesOnce fun byEmail => ?_
  refine (reads_refuseIf _ _).bind_writesOnce fun _ => ?_
  refine (reads_work (reads_ask rfl)).bind_writesOnce fun byName => ?_
  refine (reads_refuseIf _ _).bind_writesOnce fun _ => ?_
  refine (reads_ofExcept _ _).bind_writesOnce fun passwordHash => ?_
  exact writesOnce_work (Work.writesOnce_createUser _ _ _ _) (fun _ => rfl) (by decide)

theorem eq_conflict_of_changeRefusal {e : StoreError} (h : (changeRefusal e).status = 409) :
    e = .conflict .slug := by
  cases e with
  | notFound => exact absurd h (by decide)
  | _ => exact eq_conflict_of_toRequestError h

theorem writesOnce_change (userId : Int) (changes : AccountChanges) :
    WritesOnce IsConflict (change shared m userId changes) := by
  refine (reads_refuseForeign _ _ (fun _ => reads_ask rfl) _).bind_writesOnce fun _ => ?_
  refine (reads_refuseForeign _ _ (fun _ => reads_ask rfl) _).bind_writesOnce fun _ => ?_
  refine (reads_hashes _).bind_writesOnce fun passwordHash => ?_
  exact writesOnce_workWith (fun _ => eq_conflict_of_changeRefusal)
    (Work.writesOnce_updateUser _ _ _) (fun _ => rfl) (by decide)

theorem writesOnce_update (r : Request) : WritesOnce IsConflict (update shared m r) := by
  refine (reads_principal _ _ _).bind_writesOnce fun p => ?_
  refine (reads_payload _ _).bind_writesOnce fun changes => ?_
  cases changes.isEmpty with
  | true =>
      refine Reads.writesOnce ?_
      exact (reads_work (reads_ask rfl)).bind fun _ => (reads_found _ _).bind fun _ => reads_pure _
  | false => exact writesOnce_change p.userId changes

end Accounts

namespace Articles

theorem writesOnce_create (r : Request) : WritesOnce IsConflict (create shared m r) := by
  refine (reads_principal _ _ _).bind_writesOnce fun p => ?_
  refine (reads_payload _ _).bind_writesOnce fun draft => ?_
  exact writesOnce_work (Work.writesOnce_createArticle _ _ _) (fun _ => rfl) (by decide)

theorem writesOnce_update (r : Request) (raw : String) :
    WritesOnce IsConflict (update shared m r raw) := by
  refine (reads_principal _ _ _).bind_writesOnce fun p => ?_
  refine (reads_parameter _ _).bind_writesOnce fun slug => ?_
  refine (reads_loadOwn _ _).bind_writesOnce fun own => ?_
  refine (reads_payload _ _).bind_writesOnce fun changes => ?_
  exact writesOnce_work (Work.writesOnce_updateArticle _ _ _) (fun _ => rfl) (by decide)

theorem writesOnce_delete (r : Request) (raw : String) :
    WritesOnce IsConflict (delete shared m r raw) := by
  refine (reads_principal _ _ _).bind_writesOnce fun p => ?_
  refine (reads_parameter _ _).bind_writesOnce fun slug => ?_
  refine (reads_loadOwn _ _).bind_writesOnce fun own => ?_
  exact writesOnce_work (Work.writesOnce_deleteArticle _) (fun _ => rfl) (by decide)

theorem writesOnce_comment (r : Request) (raw : String) :
    WritesOnce IsConflict (comment shared m r raw) := by
  refine (reads_principal _ _ _).bind_writesOnce fun p => ?_
  refine (reads_parameter _ _).bind_writesOnce fun slug => ?_
  refine (reads_payload _ _).bind_writesOnce fun draft => ?_
  refine (reads_load _).bind_writesOnce fun a => ?_
  exact writesOnce_work (Work.writesOnce_createComment _ _ _ _) (fun _ => rfl) (by decide)

theorem writesOnce_deleteComment (r : Request) (raw rawId : String) :
    WritesOnce IsConflict (deleteComment shared m r raw rawId) := by
  refine (reads_principal _ _ _).bind_writesOnce fun p => ?_
  cases commentParameters? raw rawId with
  | none => exact writesOnce_throw _
  | some parameters =>
      refine (reads_load _).bind_writesOnce fun a => ?_
      refine (reads_work (reads_ask rfl)).bind_writesOnce fun row => ?_
      refine (reads_ofExcept _ _).bind_writesOnce fun own => ?_
      exact writesOnce_work (Work.writesOnce_deleteComment _) (fun _ => rfl) (by decide)

end Articles

namespace Application

theorem writesOnce_handler {r : Request} {route : Route} {handler : Handler}
    (h : handler? shared m r route = some handler) : WritesOnce IsConflict handler := by
  cases serves_of_handler? h with
  | health => exact (reads_checkHealth _).writesOnce
  | register => exact Accounts.writesOnce_register r
  | login => exact (Accounts.reads_login r).writesOnce
  | current => exact (Accounts.reads_current r).writesOnce
  | changeAccount => exact Accounts.writesOnce_update r
  | profile username => exact (Accounts.reads_profile username).writesOnce
  | list => exact (Articles.reads_list r).writesOnce
  | publish => exact Articles.writesOnce_create r
  | article slug => exact (Articles.reads_get slug).writesOnce
  | revise hmethod slug => exact Articles.writesOnce_update r slug
  | retract hmethod slug => exact Articles.writesOnce_delete r slug
  | comments slug => exact (Articles.reads_comments slug).writesOnce
  | remark hmethod slug => exact Articles.writesOnce_comment r slug
  | withdraw hmethod slug id => exact Articles.writesOnce_deleteComment r slug id

theorem finish_eq_map (handler : Handler) :
    finish handler = handler.run >>= fun x => pure (reply x) := by
  rw [finish]
  refine bind_congr fun x => ?_
  cases x <;> rfl

theorem single_handle (shared : Shared) (m : Moment) (r : Request) :
    (handle shared m r).Single Response.IsConflict := by
  rw [handle]
  split
  · trivial
  · split
    · trivial
    · split
      · rename_i handler hhandler
        rw [finish_eq_map]
        exact (writesOnce_handler hhandler).single.map fun _ h => h
      · trivial

/-- Whatever the store answers in the meantime, a request writes at most once, and is not answered
with a conflict when it has written. -/
theorem single_respond (app : Application) (m : Moment) (r : Request) :
    (app.respond m r).Single Response.IsConflict :=
  (single_handle app.shared m r).map fun _ h => h

end Application

end Weblog
