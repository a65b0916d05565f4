import Weblog.Proofs.Ending
import Weblog.Proofs.Service.Effects

/-!
All the refusals that a request may meet, part by part of the handlers: one analysis for whatever is
to be shown of refusals, and for whatever answers the store may give.
-/

namespace Weblog

open Session Handler

/-- The statement writes a column whose values may not repeat. -/
def Statement.isUnique : Statement → Bool
  | .insertUser .. | .updateUser .. | .insertArticle .. | .updateArticle .. => true
  | _ => false

/-- The statement adds an article or a comment, which names rows of other tables. -/
def Statement.addsContent : Statement → Bool
  | .insertArticle .. | .insertComment .. => true
  | _ => false

/-- Where the database refuses the statement, a value would repeat, or the failure is one of `E`. -/
def Bears (A : Answers) (E : RequestError → Prop) (q : Statement) : Prop :=
  ∀ e, A q (.error e) →
    q.isUnique = true ∧ (∃ field, e = .repeated field) ∨ E (.internal e.message)

/-- The refusals of all requests are among `E`, but for those of paths that cannot be read and of
content that the database does not take. -/
structure Tolerates (A : Answers) (shared : Shared) (m : Moment) (E : RequestError → Prop) :
    Prop where
  badRequest : ∀ message, E (.badRequest message)
  invalid : ∀ violations, violations ≠ [] → E (.invalid violations)
  unauthorized : ∀ message, E (.unauthorized message)
  forbidden : ∀ message, E (.forbidden message)
  notFound : ∀ message, E (.notFound message)
  conflict : ∀ message, E (.conflict message)
  hash : ∀ {password e}, shared.passwords.hash m.salt shared.hashCost password = .error e →
    E e.toRequestError
  verify : ∀ {email u given e}, A (.userByEmail email) (.ok (some u)) →
    shared.passwords.verify given u.passwordHash = .error e → E e.toRequestError
  bears : ∀ q : Statement, q.addsContent = false → Bears A E q

def Response.IsSuccess (response : Response) : Prop :=
  response.status < 400

/-- Shown for somebody only, who shows a token. -/
def Route.isPrivate : Route → Method → Bool
  | .user, _ | .comment .., _ => true
  | .articles, method | .comments _, method => method = .post
  | .article _, method => method = .put ∨ method = .delete
  | _, _ => false

def Route.addsContent : Route → Method → Bool
  | .articles, method | .comments _, method => method = .post
  | _, _ => false

/-- The parameter of a path that has one only, under its name. -/
def Route.parameter? : Route → Option (String × String)
  | .profile username => some ("username", username)
  | .article slug | .comments slug => some ("slug", slug)
  | _ => none

variable {A : Answers} {E : RequestError → Prop} {shared : Shared} {m : Moment} {r : Request}

section

variable {service : TokenService} {now : Nat} {e : RequestError}

theorem Principal.token?_eq_error {value : String} (h : token? value = .error e) :
    ∃ message, e = .unauthorized message := by
  simp only [token?] at h
  split at h
  · split at h
    · exact ⟨_, (Except.error.inj h).symm⟩
    · exact nomatch h
  · exact ⟨_, (Except.error.inj h).symm⟩

theorem Token.check_eq_error {claims : Registered} {e : TokenError}
    (h : check now claims = .error e) : e = .expired ∨ e = .invalid := by
  simp only [check] at h
  split_ifs at h
  · exact .inl (Except.error.inj h).symm
  all_goals exact .inr (Except.error.inj h).symm

theorem Token.checked_eq_error {secret token : String} {read : Bytes → Option α} {e : TokenError}
    (h : checked secret read now token = .error e) : e = .expired ∨ e = .invalid := by
  rw [checked] at h
  split at h
  · exact .inr (Except.error.inj h).symm
  split at h
  · exact .inr (Except.error.inj h).symm
  split at h
  · exact .inr (Except.error.inj h).symm
  split at h
  · rename_i hcheck
    rw [← Except.error.inj h]
    exact check_eq_error hcheck
  · exact nomatch h

theorem Principal.ofHeaders_eq_error {values : List String}
    (h : ofHeaders service now values = .error e) : ∃ message, e = .unauthorized message := by
  cases values with
  | nil => exact ⟨_, (Except.error.inj h).symm⟩
  | cons value rest =>
      cases htoken : token? value with
      | error refused =>
          rw [ofHeaders, htoken] at h
          rw [← Except.error.inj h]
          exact token?_eq_error htoken
      | ok token =>
          simp only [ofHeaders, htoken, Bind.bind, Except.bind] at h
          cases hverify : service.verify now token with
          | error refused =>
              rw [hverify] at h
              rw [← Except.error.inj h]
              rcases Token.checked_eq_error hverify with rfl | rfl
              · exact ⟨_, rfl⟩
              · exact ⟨_, rfl⟩
          | ok claims =>
              rw [hverify] at h
              exact nomatch h

end

section

/-- A request that the store refuses so is refused with one of `E`. -/
abbrev StoreError.Among (E : RequestError → Prop) (e : StoreError) : Prop :=
  E e.toRequestError

theorem settles_ofExcept {toError : ε → RequestError} {x : Except ε α}
    (hx : ∀ e, x = .error e → E (toError e)) :
    Settles A E (fun a => x = .ok a) (ofExcept toError x) := by
  cases x with
  | error e => exact settles_throw (hx e rfl)
  | ok a => exact settles_pure rfl

theorem settles_workWith {toError : StoreError → RequestError} {F : StoreError → Prop}
    {Q : α → Prop} {w : Work α} (hw : Settles A F Q w) (hF : ∀ e, F e → E (toError e)) :
    Settles A E Q (workWith toError w) := by
  refine ⟨hw.surely.bind fun x hx => ?_⟩
  cases x with
  | error e => exact hF e hx
  | ok a => exact hx

theorem settles_work {Q : α → Prop} {w : Work α} (hw : Settles A (StoreError.Among E) Q w) :
    Settles A E Q (work w) :=
  settles_workWith hw fun _ he => he

theorem settles_parameter {name raw : String}
    (hraw : parameter? raw = none → E (.malformedPath name)) :
    Settles A E (fun _ => True) (parameter name raw) := by
  rw [parameter]
  split
  · exact settles_pure trivial
  · rename_i hnone
    exact settles_throw (hraw hnone)

end

namespace Tolerates

variable (hE : Tolerates A shared m E)

include hE

theorem settles_principal : Settles A E (IsFor shared m r) (principal shared m r) := by
  refine settles_ofExcept fun e he => ?_
  obtain ⟨message, rfl⟩ := Principal.ofHeaders_eq_error he
  exact hE.unauthorized message

theorem settles_payload (kind : PayloadKind α) :
    Settles A E (IsPayload kind r) (payload kind r) := by
  rw [payload]
  split
  · exact settles_throw (hE.badRequest _)
  · rename_i a hread
    split
    · rename_i hvalid
      exact settles_pure ⟨hread, hvalid⟩
    · rename_i hvalid
      exact settles_throw (hE.invalid _ hvalid)

theorem settles_found (message : String) (o : Option α) :
    Settles A E (fun _ => True) (found message o) := by
  cases o with
  | none => exact settles_throw (hE.notFound _)
  | some a => exact settles_pure trivial

theorem settles_owner (kind : Owned) (authorId : α → Int) (thing : Option α) (userId : Int) :
    Settles A E (fun _ => True)
      (ofExcept OwnershipError.toRequestError (requireOwner kind authorId thing userId)) := by
  cases requireOwner kind authorId thing userId with
  | ok a => exact settles_pure trivial
  | error e =>
      cases e with
      | missing kind => exact settles_throw (hE.notFound _)
      | foreign kind => exact settles_throw (hE.forbidden _)

theorem settles_ask {q : Statement} (hcontent : q.addsContent = false)
    (hunique : q.isUnique = false) :
    Settles A (StoreError.Among E) (fun a => A q (.ok a)) (ask q) := by
  refine Weblog.settles_ask fun e he => ?_
  rcases hE.bears q hcontent e he with ⟨h, -⟩ | h
  · exact nomatch hunique.symm.trans h
  · exact h

theorem settles_work_found (o : Option α) :
    Settles A (StoreError.Among E) (fun _ => True) (Work.found o) := by
  cases o with
  | none => exact settles_throw (hE.notFound _)
  | some a => exact settles_pure trivial

omit hE in
theorem among_of_bears {q : Statement} (hq : Bears A E q) {e : DatabaseError}
    (he : A q (.error e)) (hrepeated : ∀ field, e ≠ .repeated field) :
    StoreError.Among E (.database e) := by
  rcases hq e he with ⟨-, field, h⟩ | h
  · exact absurd h (hrepeated field)
  · exact h

theorem among_conflict (field : UniqueField) : StoreError.Among E (.conflict field) := by
  cases field with
  | email => exact hE.badRequest _
  | username => exact hE.badRequest _
  | slug => exact hE.conflict _

theorem settles_conflict (email : Option String) (except : Option Int) {Q : α → Prop} :
    Settles A (StoreError.Among E) Q
      (Work.conflictingField email except >>= fun field => (throw (.conflict field) : Work α)) := by
  refine Settles.bind (Q := fun _ => True) ?_ fun field _ => settles_throw (hE.among_conflict field)
  cases email with
  | none => exact settles_pure trivial
  | some email =>
      refine (hE.settles_ask (q := .userByEmail email) rfl rfl).bind fun row _ => ?_
      cases row with
      | none => exact settles_pure trivial
      | some u => exact settles_pure trivial

theorem settles_createUser (username email passwordHash : String) (now : Instant) :
    Settles A (StoreError.Among E) (fun _ => True)
      (Work.createUser username email passwordHash now) := by
  refine (settles_attempt (q := .insertUser username email passwordHash now)).bind fun x hx => ?_
  have hbears := hE.bears (.insertUser username email passwordHash now) rfl
  cases x with
  | ok u => exact settles_pure trivial
  | error e =>
      cases e with
      | repeated field => exact hE.settles_conflict _ _
      | closed => exact settles_throw (among_of_bears hbears hx (by simp))
      | dangling => exact settles_throw (among_of_bears hbears hx (by simp))

theorem settles_updateUser (id : Int) (changes : UserChanges) (now : Instant) :
    Settles A (StoreError.Among E) (fun _ => True) (Work.updateUser id changes now) := by
  refine (settles_attempt (q := .updateUser id changes now)).bind fun x hx => ?_
  have hbears := hE.bears (.updateUser id changes now) rfl
  cases x with
  | ok u => exact hE.settles_work_found u
  | error e =>
      cases e with
      | repeated field => exact hE.settles_conflict _ _
      | closed => exact settles_throw (among_of_bears hbears hx (by simp))
      | dangling => exact settles_throw (among_of_bears hbears hx (by simp))

theorem settles_allocateSlug (title : String) (except : Option Int) (now : Instant) :
    Settles A (StoreError.Among E) (fun _ => True) (Work.allocateSlug title except now) := by
  rw [Work.allocateSlug]
  split
  · exact settles_throw (hE.invalid _ (List.cons_ne_nil _ _))
  · exact (hE.settles_ask rfl rfl).bind fun _ _ => settles_pure trivial

theorem settles_article (id : Int) :
    Settles A (StoreError.Among E) (fun _ => True) (Work.article id >>= Work.found) :=
  (hE.settles_ask (q := .article id) rfl rfl).bind fun _ _ => hE.settles_work_found _

theorem among_articleRefusal {q : Statement} (hq : Bears A E q) {e : DatabaseError}
    (he : A q (.error e)) : StoreError.Among E (Work.articleRefusal e) := by
  cases e with
  | repeated field => exact hE.conflict _
  | closed => exact among_of_bears hq he (by simp)
  | dangling => exact among_of_bears hq he (by simp)

theorem settles_createArticle (hadds : ∀ q, Bears A E q) (authorId : Int) (draft : ArticleDraft)
    (now : Instant) :
    Settles A (StoreError.Among E) (fun _ => True) (Work.createArticle authorId draft now) := by
  refine (hE.settles_allocateSlug _ _ _).bind fun slug _ => ?_
  refine (settles_attempt (q := .insertArticle slug draft authorId now)).bind fun x hx => ?_
  cases x with
  | ok id => exact hE.settles_article id
  | error e => exact settles_throw (hE.among_articleRefusal (hadds _) hx)

theorem settles_writeRevision (id : Int) (slug : String) (changes : ArticleChanges)
    (now : Instant) :
    Settles A (StoreError.Among E) (fun _ => True) (Work.writeRevision id slug changes now) := by
  refine (settles_attempt (q := .updateArticle id slug changes now)).bind fun x hx => ?_
  rcases x with e | _ | _
  · exact settles_throw (hE.among_articleRefusal (hE.bears _ rfl) hx)
  · exact settles_throw (hE.notFound _)
  · exact hE.settles_article id

theorem settles_updateArticle (current : Article) (changes : ArticleChanges) (now : Instant) :
    Settles A (StoreError.Among E) (fun _ => True) (Work.updateArticle current changes now) := by
  rcases Work.updateArticle_forms current changes now with
    ⟨-, hform⟩ | ⟨-, -, hform⟩ | ⟨title, -, hform⟩
  · rw [hform]
    exact hE.settles_article _
  · rw [hform]
    exact hE.settles_writeRevision _ _ _ _
  · rw [hform]
    exact (hE.settles_allocateSlug _ _ _).bind fun _ _ => hE.settles_writeRevision _ _ _ _

theorem settles_deleteArticle (id : Int) :
    Settles A (StoreError.Among E) (fun _ => True) (Work.deleteArticle id) := by
  refine (hE.settles_ask (q := .deleteArticle id) rfl rfl).bind fun isThere _ => ?_
  cases isThere with
  | true => exact settles_pure trivial
  | false => exact settles_throw (hE.notFound _)

theorem settles_listArticles (q : ListQuery) :
    Settles A (StoreError.Among E) (fun _ => True) (Work.listArticles q) :=
  (hE.settles_ask rfl rfl).bind fun _ _ => (hE.settles_ask rfl rfl).bind fun _ _ =>
    settles_pure trivial

theorem settles_createComment (hadds : ∀ q, Bears A E q) (articleId authorId : Int)
    (body : String) (now : Instant) :
    Settles A (StoreError.Among E) (fun _ => True)
      (Work.createComment articleId authorId body now) := by
  refine (Weblog.settles_ask fun e he => ?_).bind fun id _ => ?_
  · rcases hadds _ e he with ⟨h, -⟩ | h
    · exact nomatch h
    · exact h
  · exact (hE.settles_ask rfl rfl).bind fun _ _ => hE.settles_work_found _

theorem settles_deleteComment (id : Int) :
    Settles A (StoreError.Among E) (fun _ => True) (Work.deleteComment id) := by
  refine (hE.settles_ask (q := .deleteComment id) rfl rfl).bind fun isThere _ => ?_
  cases isThere with
  | true => exact settles_pure trivial
  | false => exact settles_throw (hE.notFound _)

theorem settles_hash (password : String) :
    Settles A E (fun _ => True) (Accounts.hash shared m password) :=
  (settles_ofExcept fun _ he => hE.hash he).imp fun _ _ => trivial

theorem settles_hashes (password : Option String) :
    Settles A E (fun _ => True) (password.mapM (Accounts.hash shared m)) := by
  cases password with
  | none => exact settles_pure trivial
  | some password => exact (hE.settles_hash password).bind fun _ _ => settles_pure trivial

theorem settles_refuseIf (taken : Bool) (message : String) :
    Settles A E (fun _ => True) (Accounts.refuseIf taken message) := by
  cases taken with
  | false => exact settles_pure trivial
  | true => exact settles_throw (hE.badRequest _)

theorem settles_refuseForeign (userId : Int) (value : Option String)
    {lookup : String → Work (Option User)}
    (hlookup : ∀ value, Settles A (StoreError.Among E) (fun _ => True) (lookup value))
    (message : String) :
    Settles A E (fun _ => True) (Accounts.refuseForeign userId value lookup message) := by
  cases value with
  | none => exact settles_pure trivial
  | some value =>
      exact (settles_work (hlookup value)).bind fun _ _ => hE.settles_refuseIf _ _

theorem settles_userByEmail (email : String) :
    Settles A (StoreError.Among E) (fun row => A (.userByEmail email) (.ok row))
      (Work.userByEmail email) :=
  hE.settles_ask rfl rfl

theorem settles_userByName (username : String) :
    Settles A (StoreError.Among E) (fun _ => True) (Work.userByName username) :=
  (hE.settles_ask (q := .userByName username) rfl rfl).imp fun _ _ => trivial

theorem settles_user (id : Int) : Settles A (StoreError.Among E) (fun _ => True) (Work.user id) :=
  (hE.settles_ask (q := .user id) rfl rfl).imp fun _ _ => trivial

theorem settles_register : Settles A E Response.IsSuccess (Accounts.register shared m r) := by
  refine (hE.settles_payload _).bind fun draft _ => ?_
  refine (settles_work (hE.settles_userByEmail _)).bind fun byEmail _ => ?_
  refine (hE.settles_refuseIf _ _).bind fun _ _ => ?_
  refine (settles_work (hE.settles_userByName _)).bind fun byName _ => ?_
  refine (hE.settles_refuseIf _ _).bind fun _ _ => ?_
  refine (hE.settles_hash _).bind fun passwordHash _ => ?_
  refine (settles_work (hE.settles_createUser _ _ _ _)).bind fun u _ => ?_
  exact settles_pure (by decide : 201 < 400)

theorem settles_login : Settles A E Response.IsSuccess (Accounts.login shared m r) := by
  refine (hE.settles_payload _).bind fun given _ => ?_
  refine (settles_work (hE.settles_userByEmail _)).bind fun row hrow => ?_
  cases row with
  | none => exact settles_throw (hE.unauthorized _)
  | some u =>
      refine (settles_ofExcept fun e he => hE.verify hrow he).bind fun matching _ => ?_
      split
      · exact settles_pure (by decide : 200 < 400)
      · exact settles_throw (hE.unauthorized _)

theorem settles_current : Settles A E Response.IsSuccess (Accounts.current shared m r) := by
  refine hE.settles_principal.bind fun p _ => ?_
  refine (settles_work (hE.settles_user _)).bind fun row _ => ?_
  refine (hE.settles_found _ _).bind fun u _ => ?_
  exact settles_pure (by decide : 200 < 400)

theorem settles_change (userId : Int) (changes : AccountChanges) :
    Settles A E Response.IsSuccess (Accounts.change shared m userId changes) := by
  have hbyEmail (email : String) := (hE.settles_userByEmail email).imp fun _ _ => trivial
  refine (hE.settles_refuseForeign _ _ hbyEmail _).bind fun _ _ => ?_
  refine (hE.settles_refuseForeign _ _ hE.settles_userByName _).bind fun _ _ => ?_
  refine (hE.settles_hashes _).bind fun passwordHash _ => ?_
  refine (settles_workWith (hE.settles_updateUser _ _ _) fun e he => ?_).bind fun u _ => ?_
  · cases e with
    | notFound => exact hE.notFound _
    | emptySlug | conflict | database => exact he
  · exact settles_pure (by decide : 200 < 400)

theorem settles_changeAccount : Settles A E Response.IsSuccess (Accounts.update shared m r) := by
  refine hE.settles_principal.bind fun p _ => ?_
  refine (hE.settles_payload _).bind fun changes _ => ?_
  split
  · refine (settles_work (hE.settles_user _)).bind fun row _ => ?_
    refine (hE.settles_found _ _).bind fun u _ => ?_
    exact settles_pure (by decide : 200 < 400)
  · exact hE.settles_change _ _

theorem settles_profile {raw : String}
    (hpath : Weblog.parameter? raw = none → E (.malformedPath "username")) :
    Settles A E Response.IsSuccess (Accounts.profile raw) := by
  refine (settles_parameter hpath).bind fun username _ => ?_
  refine (settles_work (hE.settles_userByName _)).bind fun row _ => ?_
  refine (hE.settles_found _ _).bind fun u _ => ?_
  exact settles_pure (by decide : 200 < 400)

theorem settles_load (slug : String) : Settles A E (fun _ => True) (Articles.load slug) :=
  (settles_work (hE.settles_ask rfl rfl)).bind fun _ _ => hE.settles_found _ _

theorem settles_loadOwn (p : Principal) (slug : String) :
    Settles A E (fun _ => True) (Articles.loadOwn p slug) :=
  (settles_work (hE.settles_ask rfl rfl)).bind fun _ _ => hE.settles_owner _ _ _ _

theorem settles_list : Settles A E Response.IsSuccess (Articles.list r) := by
  rw [Articles.list]
  split
  · exact settles_throw (hE.badRequest _)
  · refine (settles_work (hE.settles_listArticles _)).bind fun page _ => ?_
    exact settles_pure (by decide : 200 < 400)

theorem settles_publish (hadds : ∀ q, Bears A E q) :
    Settles A E Response.IsSuccess (Articles.create shared m r) := by
  refine hE.settles_principal.bind fun p _ => ?_
  refine (hE.settles_payload _).bind fun draft _ => ?_
  refine (settles_work (hE.settles_createArticle hadds _ _ _)).bind fun a _ => ?_
  exact settles_pure (by decide : 201 < 400)

section

variable {raw : String}

theorem settles_get (hpath : Weblog.parameter? raw = none → E (.malformedPath "slug")) :
    Settles A E Response.IsSuccess (Articles.get raw) := by
  refine (settles_parameter hpath).bind fun slug _ => ?_
  refine (hE.settles_load _).bind fun a _ => ?_
  exact settles_pure (by decide : 200 < 400)

theorem settles_comments (hpath : Weblog.parameter? raw = none → E (.malformedPath "slug")) :
    Settles A E Response.IsSuccess (Articles.comments raw) := by
  refine (settles_parameter hpath).bind fun slug _ => ?_
  refine (hE.settles_load _).bind fun a _ => ?_
  refine (settles_work ((hE.settles_ask rfl rfl).imp fun _ _ => trivial)).bind fun cs _ => ?_
  exact settles_pure (by decide : 200 < 400)

theorem settles_revise (hpath : ∀ p, IsFor shared m r p → Weblog.parameter? raw = none →
    E (.malformedPath "slug")) :
    Settles A E Response.IsSuccess (Articles.update shared m r raw) := by
  refine hE.settles_principal.bind fun p hp => ?_
  refine (settles_parameter (hpath p hp)).bind fun slug _ => ?_
  refine (hE.settles_loadOwn _ _).bind fun own _ => ?_
  refine (hE.settles_payload _).bind fun changes _ => ?_
  refine (settles_work (hE.settles_updateArticle _ _ _)).bind fun a _ => ?_
  exact settles_pure (by decide : 200 < 400)

theorem settles_retract (hpath : ∀ p, IsFor shared m r p → Weblog.parameter? raw = none →
    E (.malformedPath "slug")) :
    Settles A E Response.IsSuccess (Articles.delete shared m r raw) := by
  refine hE.settles_principal.bind fun p hp => ?_
  refine (settles_parameter (hpath p hp)).bind fun slug _ => ?_
  refine (hE.settles_loadOwn _ _).bind fun own _ => ?_
  refine (settles_work (hE.settles_deleteArticle _)).bind fun _ _ => ?_
  exact settles_pure (by decide : 204 < 400)

theorem settles_remark (hadds : ∀ q, Bears A E q)
    (hpath : ∀ p, IsFor shared m r p → Weblog.parameter? raw = none →
      E (.malformedPath "slug")) :
    Settles A E Response.IsSuccess (Articles.comment shared m r raw) := by
  refine hE.settles_principal.bind fun p hp => ?_
  refine (settles_parameter (hpath p hp)).bind fun slug _ => ?_
  refine (hE.settles_payload _).bind fun draft _ => ?_
  refine (hE.settles_load _).bind fun a _ => ?_
  refine (settles_work (hE.settles_createComment hadds _ _ _ _)).bind fun c _ => ?_
  exact settles_pure (by decide : 201 < 400)

theorem settles_withdraw (rawId : String) :
    Settles A E Response.IsSuccess (Articles.deleteComment shared m r raw rawId) := by
  refine hE.settles_principal.bind fun p _ => ?_
  cases Articles.commentParameters? raw rawId with
  | none => exact settles_throw (hE.badRequest _)
  | some parameters =>
      refine (hE.settles_load _).bind fun a _ => ?_
      refine (settles_work (hE.settles_ask rfl rfl)).bind fun row _ => ?_
      refine (hE.settles_owner _ _ _ _).bind fun own _ => ?_
      refine (settles_work (hE.settles_deleteComment _)).bind fun _ _ => ?_
      exact settles_pure (by decide : 204 < 400)

end

/-- Where the request meets a path that it cannot read, that is one of the refusals. -/
theorem settles_handler {route : Route} {handler : Handler} (hhealth : route ≠ .health)
    (hhandler : Application.handler? shared m r route = some handler)
    (hadds : route.addsContent r.method = true → ∀ q, Bears A E q)
    (hpath : ∀ name raw, route.parameter? = some (name, raw) → Weblog.parameter? raw = none →
      (route.isPrivate r.method = true → ∃ p, IsFor shared m r p) → E (.malformedPath name)) :
    Settles A E Response.IsSuccess handler := by
  cases Application.serves_of_handler? hhandler with
  | health => exact absurd rfl hhealth
  | register => exact hE.settles_register
  | login => exact hE.settles_login
  | current => exact hE.settles_current
  | changeAccount => exact hE.settles_changeAccount
  | profile username => exact hE.settles_profile fun hraw => hpath _ _ rfl hraw nofun
  | list => exact hE.settles_list
  | publish hmethod => exact hE.settles_publish (hadds (by simpa [Route.addsContent] using hmethod))
  | article slug hmethod =>
      refine hE.settles_get fun hraw => hpath _ _ rfl hraw fun hprivate => ?_
      rcases hmethod with h | h <;> simp [Route.isPrivate, h] at hprivate
  | revise hmethod slug =>
      exact hE.settles_revise fun p hp hraw => hpath _ _ rfl hraw fun _ => ⟨p, hp⟩
  | retract hmethod slug =>
      exact hE.settles_retract fun p hp hraw => hpath _ _ rfl hraw fun _ => ⟨p, hp⟩
  | comments slug hmethod =>
      refine hE.settles_comments fun hraw => hpath _ _ rfl hraw fun hprivate => ?_
      rcases hmethod with h | h <;> simp [Route.isPrivate, h] at hprivate
  | remark hmethod slug =>
      refine hE.settles_remark (hadds (by simpa [Route.addsContent] using hmethod)) ?_
      exact fun p hp hraw => hpath _ _ rfl hraw fun _ => ⟨p, hp⟩
  | withdraw hmethod slug id => exact hE.settles_withdraw id

end Tolerates

section

variable {name raw : String} {p : Principal}

theorem parameter_of_none (hraw : parameter? raw = none) :
    parameter name raw = throw (.malformedPath name) := by
  rw [parameter, hraw]

/-- A path that cannot be read is all that matters, once the user is known where one is asked for. -/
theorem handler_eq_throw {route : Route} {handler : Handler}
    (hhandler : Application.handler? shared m r route = some handler)
    (hroute : route.parameter? = some (name, raw)) (hraw : parameter? raw = none)
    (hp : route.isPrivate r.method = true → ∃ p, IsFor shared m r p) :
    handler = throw (.malformedPath name) := by
  cases Application.serves_of_handler? hhandler with
  | health | register | login | current | changeAccount | list | publish | withdraw =>
      exact nomatch hroute
  | profile username =>
      cases hroute
      rw [Accounts.profile, parameter_of_none hraw]
      rfl
  | article slug =>
      cases hroute
      rw [Articles.get, parameter_of_none hraw]
      rfl
  | comments slug =>
      cases hroute
      rw [Articles.comments, parameter_of_none hraw]
      rfl
  | revise hmethod slug =>
      cases hroute
      obtain ⟨p, hp⟩ := hp (by simp [Route.isPrivate, hmethod])
      rw [Articles.update, principal_of_isFor hp, parameter_of_none hraw]
      rfl
  | retract hmethod slug =>
      cases hroute
      obtain ⟨p, hp⟩ := hp (by simp [Route.isPrivate, hmethod])
      rw [Articles.delete, principal_of_isFor hp, parameter_of_none hraw]
      rfl
  | remark hmethod slug =>
      cases hroute
      obtain ⟨p, hp⟩ := hp (by simp [Route.isPrivate, hmethod])
      rw [Articles.comment, principal_of_isFor hp, parameter_of_none hraw]
      rfl

end

theorem Settles.surely_respond {Q : Response → Prop} {route : Route} {handler : Handler}
    (h : Settles A E Q handler) (app : Application) (hroute : Route.ofPath? r.path = some route)
    (hhandler : Application.handler? app.shared m r route = some handler) :
    (app.respond m r).Surely A fun response =>
      (∃ told, Q told ∧ response = Application.complete app.audience m r told) ∨
        ∃ e, E e ∧ response = Application.complete app.audience m r e.response := by
  rw [Application.respond, Application.handle_of_handler? hroute hhandler]
  refine Surely.bind (Q := fun told => Q told ∨ ∃ e, E e ∧ told = e.response) ?_ ?_
  · refine h.surely.bind fun x hx => ?_
    cases x with
    | error e => exact .inr ⟨e, hx, rfl⟩
    | ok told => exact .inl hx
  · rintro told (htold | ⟨e, he, rfl⟩)
    · exact .inl ⟨told, htold, rfl⟩
    · exact .inr ⟨e, he, rfl⟩

end Weblog
