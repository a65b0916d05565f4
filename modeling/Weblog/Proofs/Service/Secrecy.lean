import Weblog.Proofs.Service.Calls
import Weblog.Proofs.Service.Shelf
import Weblog.Proofs.Store.Concealment

/-!
What clients cannot find out. Two stores differ in nothing but hidden columns of users; the same
requests are answered alike in both, as long as none is one that compares what is hidden.
-/

namespace Weblog

open Session

/-- The sessions ask the same as long as they find the same, apart from what is hidden, and their
ends are related. -/
inductive Session.Alike (h : Hidden) (R : α → α → Prop) : Session α → Session α → Prop
  | done {a a' : α} (ha : R a a') : Alike h R (.done a) (.done a')
  | query {q : Statement} {next next' : Except DatabaseError q.Answer → Session α}
      (hq : q.Spares h)
      (hnext : ∀ x x', x.map (q.seen h) = x'.map (q.seen h) → Alike h R (next x) (next' x')) :
      Alike h R (.query q next) (.query q next')

/-- Both fail alike, or both succeed and their values are related. -/
inductive Ends (R : α → α → Prop) : Except ε α → Except ε α → Prop
  | ok {a a' : α} (ha : R a a') : Ends R (.ok a) (.ok a')
  | error (e : ε) : Ends R (.error e) (.error e)

theorem ends_of_map_eq {f : α → β} {x x' : Except ε α} (h : x.map f = x'.map f) :
    Ends (fun a a' => f a = f a') x x' := by
  rcases x with e | a <;> rcases x' with e' | a'
  · exact Except.error.inj h ▸ .error e
  · exact nomatch h
  · exact nomatch h
  · exact .ok (Except.ok.inj h)

theorem Ends.mapError {R : α → α → Prop} {x x' : Except ε α} (h : Ends R x x') (g : ε → δ) :
    Ends R (x.mapError g) (x'.mapError g) := by
  cases h with
  | ok ha => exact .ok ha
  | error e => exact .error (g e)

/-- Work that does the same on two stores, as long as it finds the same apart from what is hidden. -/
structure Agree (h : Hidden) (R : α → α → Prop) (w w' : ExceptT ε Session α) : Prop where
  alike : w.run.Alike h (Ends R) w'.run

/-- Work whose end does not depend on what is hidden. -/
def Discreet (h : Hidden) (w : ExceptT ε Session α) : Prop :=
  Agree h Eq w w

section

variable {h : Hidden} {R : α → α → Prop}

namespace Session.Alike

variable {m m' : Session α}

theorem bind {T : β → β → Prop} {f f' : α → Session β} (hm : m.Alike h R m')
    (hf : ∀ a a', R a a' → (f a).Alike h T (f' a')) : (m >>= f).Alike h T (m' >>= f') := by
  induction hm with
  | done ha => exact hf _ _ ha
  | query hq hnext ih => exact .query hq ih

/-- Sessions that run alone on two such stores leave two such stores behind. -/
theorem run (hm : m.Alike h R m') {s s' : Store} (hs : s.veil h = s'.veil h) :
    R (m.run s).1 (m'.run s').1 ∧ (m.run s).2.veil h = (m'.run s').2.veil h := by
  induction hm generalizing s s' with
  | done ha => exact ⟨ha, hs⟩
  | @query q next next' hq hnext ih =>
      rw [run_query, run_query]
      obtain ⟨hanswer, hafter⟩ := Statement.answer_and_after_eq hq hs
      exact ih _ _ hanswer hafter

end Session.Alike

variable {w w' : ExceptT ε Session α} {f f' : α → ExceptT ε Session β} {T : β → β → Prop}

theorem agree_pure {a a' : α} (ha : R a a') :
    Agree h R (pure a : ExceptT ε Session α) (pure a') :=
  ⟨.done (.ok ha)⟩

theorem agree_throw (e : ε) : Agree h R (throw e : ExceptT ε Session α) (throw e) :=
  ⟨.done (.error e)⟩

theorem Agree.bind (hw : Agree h R w w') (hf : ∀ a a', R a a' → Agree h T (f a) (f' a')) :
    Agree h T (w >>= f) (w' >>= f') := by
  constructor
  rw [ExceptT.run_bind, ExceptT.run_bind]
  refine hw.alike.bind fun x x' hx => ?_
  cases hx with
  | ok ha => exact (hf _ _ ha).alike
  | error e => exact .done (.error e)

theorem discreet_pure (a : α) : Discreet h (pure a : ExceptT ε Session α) :=
  agree_pure rfl

theorem discreet_throw (e : ε) : Discreet h (throw e : ExceptT ε Session α) :=
  agree_throw e

theorem Discreet.bind (hw : Discreet h w) (hf : ∀ a, Agree h T (f a) (f' a)) :
    Agree h T (w >>= f) (w >>= f') := by
  refine Agree.bind hw ?_
  rintro a _ rfl
  exact hf a

theorem agree_ask {q : Statement} (hq : q.Spares h) :
    Agree h (fun a a' => q.seen h a = q.seen h a') (ask q) (ask q) :=
  ⟨.query hq fun _ _ hx => .done ((ends_of_map_eq hx).mapError StoreError.database)⟩

theorem agree_attempt {q : Statement} (hq : q.Spares h) :
    Agree h (fun x x' => x.map (q.seen h) = x'.map (q.seen h)) (attempt q) (attempt q) :=
  ⟨.query hq fun _ _ hx => .done (.ok hx)⟩

theorem discreet_ask {q : Statement} (hq : q.Spares h) (hseen : q.seen h = id) :
    Discreet h (ask q) := by
  have hask := agree_ask hq
  rwa [hseen] at hask

theorem discreet_attempt {q : Statement} (hq : q.Spares h) (hseen : q.seen h = id) :
    Discreet h (attempt q) := by
  have hattempt := agree_attempt hq
  rwa [hseen, Except.map_id] at hattempt

end

namespace Work

variable {h : Hidden}

/-- A row of a user, apart from what is hidden. -/
abbrev SameRow (h : Hidden) (row row' : Option User) : Prop :=
  row.map (·.veil h) = row'.map (·.veil h)

/-- A user, apart from what is hidden. -/
abbrev SameUser (h : Hidden) (u u' : User) : Prop :=
  u.veil h = u'.veil h

theorem id_eq {u u' : User} (hu : SameUser h u u') : u.id = u'.id := by
  rw [← User.id_veil (h := h) u, hu, User.id_veil]

theorem sameRow_cases {row row' : Option User} (hrow : SameRow h row row') :
    (row = none ∧ row' = none) ∨ ∃ u u', row = some u ∧ row' = some u' ∧ SameUser h u u' := by
  cases row with
  | none => exact .inl ⟨rfl, by simpa using hrow.symm⟩
  | some u =>
      obtain ⟨u', rfl, hu⟩ := Option.map_eq_some_iff.mp hrow.symm
      exact .inr ⟨u, u', rfl, rfl, hu.symm⟩

theorem agree_user (id : Int) : Agree h (SameRow h) (user id) (user id) :=
  agree_ask (q := .user id) fun _ => rfl

theorem agree_userByName (username : String) :
    Agree h (SameRow h) (userByName username) (userByName username) :=
  agree_ask (q := .userByName username) fun _ => rfl

theorem agree_userByEmail (email : String) :
    Agree .hashes (SameRow .hashes) (userByEmail email) (userByEmail email) :=
  agree_ask (Statement.spares_hashes (.userByEmail email))

theorem discreet_found (o : Option α) : Discreet h (found o) := by
  cases o with
  | none => exact discreet_throw _
  | some a => exact discreet_pure a

theorem discreet_conflictingField (email : Option String) (except : Option Int) :
    Discreet .hashes (conflictingField email except) := by
  cases email with
  | none => exact discreet_pure _
  | some email =>
      refine (agree_userByEmail email).bind fun row row' hrow => ?_
      rcases sameRow_cases hrow with ⟨rfl, rfl⟩ | ⟨u, u', rfl, rfl, hu⟩
      · exact discreet_pure _
      · simp only [id_eq hu]
        exact discreet_pure _

theorem agree_createUser (username email passwordHash : String) (now : Instant) :
    Agree .hashes (SameUser .hashes) (createUser username email passwordHash now)
      (createUser username email passwordHash now) := by
  refine (agree_attempt (Statement.spares_hashes _)).bind fun x x' hx => ?_
  cases ends_of_map_eq hx with
  | ok hu => exact agree_pure hu
  | error e =>
      cases e with
      | repeated field => exact (discreet_conflictingField _ _).bind fun field => agree_throw _
      | closed => exact agree_throw _
      | dangling => exact agree_throw _

theorem agree_updateUser (id : Int) (changes : UserChanges) (now : Instant) :
    Agree .hashes (SameUser .hashes) (updateUser id changes now) (updateUser id changes now) := by
  refine (agree_attempt (Statement.spares_hashes _)).bind fun x x' hx => ?_
  cases ends_of_map_eq hx with
  | ok hrow =>
      rcases sameRow_cases hrow with ⟨rfl, rfl⟩ | ⟨u, u', rfl, rfl, hu⟩
      · exact agree_throw _
      · exact agree_pure hu
  | error e =>
      cases e with
      | repeated field => exact (discreet_conflictingField _ _).bind fun field => agree_throw _
      | closed => exact agree_throw _
      | dangling => exact agree_throw _

theorem discreet_article (id : Int) : Discreet h (article id >>= found) :=
  Discreet.bind (discreet_ask (fun _ => rfl) rfl) discreet_found

theorem discreet_articleBySlug (slug : String) : Discreet h (articleBySlug slug) :=
  discreet_ask (fun _ => rfl) rfl

theorem discreet_comment (id : Int) : Discreet h (comment id) :=
  discreet_ask (fun _ => rfl) rfl

theorem discreet_listComments (articleId : Int) : Discreet h (listComments articleId) :=
  discreet_ask (fun _ => rfl) rfl

theorem discreet_listArticles (q : ListQuery) : Discreet h (listArticles q) :=
  Discreet.bind (discreet_ask (fun _ => rfl) rfl) fun _ =>
    Discreet.bind (discreet_ask (fun _ => rfl) rfl) fun _ => discreet_pure _

theorem discreet_allocateSlug (title : String) (except : Option Int) (now : Instant) :
    Discreet h (allocateSlug title except now) := by
  rw [allocateSlug]
  split
  · exact discreet_throw _
  · exact Discreet.bind (discreet_ask (fun _ => rfl) rfl) fun taken => discreet_pure _

theorem discreet_createArticle (authorId : Int) (draft : ArticleDraft) (now : Instant) :
    Discreet h (createArticle authorId draft now) := by
  refine (discreet_allocateSlug _ _ _).bind fun slug => ?_
  refine Discreet.bind (discreet_attempt (fun _ => rfl) rfl) fun x => ?_
  cases x with
  | error e => exact discreet_throw _
  | ok id => exact discreet_article id

theorem discreet_writeRevision (id : Int) (slug : String) (changes : ArticleChanges)
    (now : Instant) : Discreet h (writeRevision id slug changes now) := by
  refine Discreet.bind (discreet_attempt (fun _ => rfl) rfl) fun x => ?_
  rcases x with e | _ | _
  · exact discreet_throw _
  · exact discreet_throw _
  · exact discreet_article id

theorem discreet_updateArticle (current : Article) (changes : ArticleChanges) (now : Instant) :
    Discreet h (updateArticle current changes now) := by
  rcases updateArticle_forms current changes now with
    ⟨-, hform⟩ | ⟨-, -, hform⟩ | ⟨title, -, hform⟩ <;> rw [hform]
  · exact discreet_article current.id
  · exact discreet_writeRevision _ _ _ _
  · exact (discreet_allocateSlug _ _ _).bind fun slug => discreet_writeRevision _ _ _ _

theorem discreet_deleteArticle (id : Int) : Discreet h (deleteArticle id) := by
  refine Discreet.bind (discreet_ask (fun _ => rfl) rfl) fun wasThere => ?_
  cases wasThere with
  | true => exact discreet_pure _
  | false => exact discreet_throw _

theorem discreet_createComment (articleId authorId : Int) (body : String) (now : Instant) :
    Discreet h (createComment articleId authorId body now) :=
  Discreet.bind (discreet_ask (fun _ => rfl) rfl) fun _ =>
    Discreet.bind (discreet_ask (fun _ => rfl) rfl) discreet_found

theorem discreet_deleteComment (id : Int) : Discreet h (deleteComment id) := by
  refine Discreet.bind (discreet_ask (fun _ => rfl) rfl) fun wasThere => ?_
  cases wasThere with
  | true => exact discreet_pure _
  | false => exact discreet_throw _

end Work

open Handler Work

variable {h : Hidden} {shared : Shared} {m : Moment} {r : Request}

namespace Handler

theorem agree_workWith {R : α → α → Prop} (toError : StoreError → RequestError) {w w' : Work α}
    (hw : Agree h R w w') : Agree h R (workWith toError w) (workWith toError w') := by
  refine ⟨hw.alike.bind fun x x' hx => ?_⟩
  cases hx with
  | ok ha => exact .done (.ok ha)
  | error e => exact .done (.error _)

theorem agree_work {R : α → α → Prop} {w w' : Work α} (hw : Agree h R w w') :
    Agree h R (work w) (work w') :=
  agree_workWith _ hw

theorem discreet_work {w : Work α} (hw : Discreet h w) : Discreet h (work w) :=
  agree_work hw

theorem discreet_ofExcept (toError : ε → RequestError) (x : Except ε α) :
    Discreet h (ofExcept toError x) := by
  cases x with
  | error e => exact discreet_throw _
  | ok a => exact discreet_pure a

theorem discreet_found (message : String) (o : Option α) : Discreet h (found message o) := by
  cases o with
  | none => exact discreet_throw _
  | some a => exact discreet_pure a

theorem agree_found (message : String) {row row' : Option User} (hrow : SameRow h row row') :
    Agree h (SameUser h) (found message row) (found message row') := by
  rcases sameRow_cases hrow with ⟨rfl, rfl⟩ | ⟨u, u', rfl, rfl, hu⟩
  · exact agree_throw _
  · exact agree_pure hu

theorem discreet_principal : Discreet h (principal shared m r) :=
  discreet_ofExcept id _

theorem discreet_parameter (name raw : String) : Discreet h (parameter name raw) := by
  rw [parameter]
  split
  · exact discreet_pure _
  · exact discreet_throw _

theorem discreet_payload (kind : PayloadKind α) : Discreet h (payload kind r) := by
  rw [payload]
  split
  · exact discreet_throw _
  · split
    · exact discreet_pure _
    · exact discreet_throw _

end Handler

namespace Accounts

theorem discreet_refuseIf (taken : Bool) (message : String) :
    Discreet h (refuseIf taken message) := by
  cases taken with
  | false => exact discreet_pure _
  | true => exact discreet_throw _

theorem agree_refuseIf {taken taken' : Bool} (htaken : taken = taken') (message : String) :
    Agree h Eq (refuseIf taken message) (refuseIf taken' message) :=
  htaken ▸ discreet_refuseIf taken message

theorem isSome_eq {row row' : Option User} (hrow : SameRow h row row') :
    row.isSome = row'.isSome := by
  rcases sameRow_cases hrow with ⟨rfl, rfl⟩ | ⟨u, u', rfl, rfl, -⟩
  · rfl
  · rfl

theorem any_id_eq {row row' : Option User} (hrow : SameRow h row row') (p : Int → Bool) :
    row.any (p ·.id) = row'.any (p ·.id) := by
  rcases sameRow_cases hrow with ⟨rfl, rfl⟩ | ⟨u, u', rfl, rfl, hu⟩
  · rfl
  · exact congrArg p (id_eq hu)

theorem discreet_refuseForeign (userId : Int) (value : Option String)
    {lookup : String → Work (Option User)}
    (hlookup : ∀ value, Agree h (SameRow h) (lookup value) (lookup value)) (message : String) :
    Discreet h (refuseForeign userId value lookup message) := by
  cases value with
  | none => exact discreet_pure _
  | some value =>
      refine (agree_work (hlookup value)).bind fun row row' hrow => ?_
      exact agree_refuseIf (any_id_eq hrow (· != userId)) message

theorem discreet_hashes (password : Option String) :
    Discreet h (password.mapM (hash shared m)) := by
  cases password with
  | none => exact discreet_pure _
  | some password => exact (discreet_ofExcept _ _).bind fun _ => discreet_pure _

theorem answer_eq {u u' : User} (hu : SameUser .hashes u u') (status : Nat) :
    answer shared m status u = answer shared m status u' := by
  have hveil := congrArg (answer shared m status) hu
  exact hveil

theorem discreet_register : Discreet .hashes (register shared m r) := by
  refine (discreet_payload _).bind fun draft => ?_
  refine (agree_work (agree_userByEmail _)).bind fun byEmail byEmail' hemail => ?_
  refine (agree_refuseIf (isSome_eq hemail) _).bind fun _ _ _ => ?_
  refine (agree_work (agree_userByName _)).bind fun byName byName' hname => ?_
  refine (agree_refuseIf (isSome_eq hname) _).bind fun _ _ _ => ?_
  refine (discreet_ofExcept _ _).bind fun passwordHash => ?_
  refine (agree_work (agree_createUser _ _ _ _)).bind fun u u' hu => ?_
  exact agree_pure (answer_eq hu 201)

theorem discreet_current : Discreet .hashes (current shared m r) := by
  refine discreet_principal.bind fun p => ?_
  refine (agree_work (agree_user _)).bind fun row row' hrow => ?_
  refine (agree_found _ hrow).bind fun u u' hu => agree_pure ?_
  have hveil := congrArg (fun u : User => Response.json 200 (u.accountView p.token).reply) hu
  exact hveil

theorem discreet_change (userId : Int) (changes : AccountChanges) :
    Discreet .hashes (change shared m userId changes) := by
  refine (discreet_refuseForeign _ _ agree_userByEmail _).bind fun _ => ?_
  refine (discreet_refuseForeign _ _ agree_userByName _).bind fun _ => ?_
  refine (discreet_hashes _).bind fun passwordHash => ?_
  refine (agree_workWith _ (agree_updateUser _ _ _)).bind fun u u' hu => ?_
  exact agree_pure (answer_eq hu 200)

theorem discreet_update : Discreet .hashes (update shared m r) := by
  refine discreet_principal.bind fun p => ?_
  refine (discreet_payload _).bind fun changes => ?_
  split
  · refine (agree_work (agree_user _)).bind fun row row' hrow => ?_
    refine (agree_found _ hrow).bind fun u u' hu => agree_pure ?_
    exact answer_eq hu 200
  · exact discreet_change p.userId changes

theorem discreet_profile (username : String) : Discreet h (profile username) := by
  refine (discreet_parameter _ _).bind fun username => ?_
  refine (agree_work (agree_userByName _)).bind fun row row' hrow => ?_
  refine (agree_found _ hrow).bind fun u u' hu => agree_pure ?_
  rw [User.profile_eq_of_veil_eq hu]

end Accounts

namespace Articles

theorem discreet_load (slug : String) : Discreet h (load slug) :=
  (discreet_work (discreet_articleBySlug _)).bind fun _ => Handler.discreet_found _ _

theorem discreet_loadOwn (p : Principal) (slug : String) : Discreet h (loadOwn p slug) :=
  (discreet_work (discreet_articleBySlug _)).bind fun _ => discreet_ofExcept _ _

theorem discreet_list : Discreet h (list r) := by
  rw [list]
  split
  · exact discreet_throw _
  · exact (discreet_work (discreet_listArticles _)).bind fun _ => discreet_pure _

theorem discreet_get (slug : String) : Discreet h (get slug) :=
  (discreet_parameter _ _).bind fun _ => (discreet_load _).bind fun _ => discreet_pure _

theorem discreet_comments (slug : String) : Discreet h (comments slug) := by
  refine (discreet_parameter _ _).bind fun slug => ?_
  refine (discreet_load _).bind fun a => ?_
  exact (discreet_work (discreet_listComments _)).bind fun _ => discreet_pure _

theorem discreet_create : Discreet h (create shared m r) := by
  refine discreet_principal.bind fun p => ?_
  refine (discreet_payload _).bind fun draft => ?_
  exact (discreet_work (discreet_createArticle _ _ _)).bind fun _ => discreet_pure _

theorem discreet_update (raw : String) : Discreet h (update shared m r raw) := by
  refine discreet_principal.bind fun p => ?_
  refine (discreet_parameter _ _).bind fun slug => ?_
  refine (discreet_loadOwn _ _).bind fun own => ?_
  refine (discreet_payload _).bind fun changes => ?_
  exact (discreet_work (discreet_updateArticle _ _ _)).bind fun _ => discreet_pure _

theorem discreet_delete (raw : String) : Discreet h (delete shared m r raw) := by
  refine discreet_principal.bind fun p => ?_
  refine (discreet_parameter _ _).bind fun slug => ?_
  refine (discreet_loadOwn _ _).bind fun own => ?_
  exact (discreet_work (discreet_deleteArticle _)).bind fun _ => discreet_pure _

theorem discreet_comment (raw : String) : Discreet h (comment shared m r raw) := by
  refine discreet_principal.bind fun p => ?_
  refine (discreet_parameter _ _).bind fun slug => ?_
  refine (discreet_payload _).bind fun draft => ?_
  refine (discreet_load _).bind fun a => ?_
  exact (discreet_work (discreet_createComment _ _ _ _)).bind fun _ => discreet_pure _

theorem discreet_deleteComment (raw rawId : String) :
    Discreet h (deleteComment shared m r raw rawId) := by
  refine discreet_principal.bind fun p => ?_
  cases commentParameters? raw rawId with
  | none => exact discreet_throw _
  | some parameters =>
      refine (discreet_load _).bind fun a => ?_
      refine (discreet_work (Work.discreet_comment _)).bind fun row => ?_
      refine (discreet_ofExcept _ _).bind fun own => ?_
      exact (discreet_work (Work.discreet_deleteComment _)).bind fun _ => discreet_pure _

end Articles

namespace Request

def IsLogin (r : Request) : Prop :=
  r.method = .post ∧ Route.ofPath? r.path = some .login

instance (r : Request) : Decidable r.IsLogin :=
  inferInstanceAs (Decidable (_ ∧ _))

/-- The request opens an account, comes back to one, shows one to its owner or changes it. -/
def IsForAccount (r : Request) : Prop :=
  Route.ofPath? r.path ∈ [some .users, some .login, some .user]

instance (r : Request) : Decidable r.IsForAccount :=
  inferInstanceAs (Decidable (_ ∈ _))

/-- The request does not compare what is hidden. -/
def Spares : Hidden → Request → Prop
  | .hashes, r => ¬ r.IsLogin
  | .hashesAndEmails, r => ¬ r.IsForAccount

theorem Spares.eq_hashes (hr : r.Spares h) (hfor : r.IsForAccount) : h = .hashes := by
  cases h with
  | hashes => rfl
  | hashesAndEmails => exact absurd hfor hr

end Request

namespace Application

theorem discreet_checkHealth (method : Method) :
    Discreet h (ExceptT.lift (checkHealth shared m method) : Handler) := by
  refine ⟨.query (fun _ => rfl) fun x x' hx => .done (.ok ?_)⟩
  cases ends_of_map_eq hx with
  | ok _ => rfl
  | error e => rfl

theorem discreet_handler {route : Route} {handler : Handler}
    (hroute : Route.ofPath? r.path = some route) (hr : r.Spares h)
    (hhandler : handler? shared m r route = some handler) : Discreet h handler := by
  have hfor (hmem : route ∈ [.users, .login, .user]) : h = .hashes :=
    hr.eq_hashes (by rw [Request.IsForAccount, hroute]; simpa using hmem)
  cases serves_of_handler? hhandler with
  | health => exact discreet_checkHealth _
  | register =>
      obtain rfl := hfor (by decide)
      exact Accounts.discreet_register
  | login hmethod =>
      obtain rfl := hfor (by decide)
      exact absurd ⟨hmethod, hroute⟩ hr
  | current =>
      obtain rfl := hfor (by decide)
      exact Accounts.discreet_current
  | changeAccount =>
      obtain rfl := hfor (by decide)
      exact Accounts.discreet_update
  | profile username => exact Accounts.discreet_profile username
  | list => exact Articles.discreet_list
  | publish => exact Articles.discreet_create
  | article slug => exact Articles.discreet_get slug
  | revise hmethod slug => exact Articles.discreet_update slug
  | retract hmethod slug => exact Articles.discreet_delete slug
  | comments slug => exact Articles.discreet_comments slug
  | remark hmethod slug => exact Articles.discreet_comment slug
  | withdraw hmethod slug id => exact Articles.discreet_deleteComment slug id

theorem alike_handle (hr : r.Spares h) : (handle shared m r).Alike h Eq (handle shared m r) := by
  rw [handle]
  split
  · exact .done rfl
  · rename_i route hroute
    split
    · exact .done rfl
    · split
      · rename_i handler hhandler
        rw [finish_eq_map]
        refine (discreet_handler hroute hr hhandler).alike.bind fun x x' hx => .done ?_
        cases hx with
        | ok ha => rw [ha]
        | error e => rfl
      · exact .done rfl

end Application

theorem Visit.alike_work {v : Visit} (hv : v.request.Spares h) : v.work.Alike h Eq v.work := by
  refine (Application.alike_handle hv).bind ?_
  rintro response _ rfl
  exact .done rfl

/-- The store that visits leave behind when one is answered after another, beginning with `s`. -/
def Store.afterVisits (s : Store) (visits : List Visit) : Store :=
  visits.foldl (fun s v => (v.work.run s).2) s

theorem exchanges_eq_of_veil_eq {s s' : Store} (hs : s.veil h = s'.veil h) {visits : List Visit}
    (hvisits : ∀ v ∈ visits, v.request.Spares h) :
    exchanges s visits = exchanges s' visits ∧
      (s.afterVisits visits).veil h = (s'.afterVisits visits).veil h := by
  induction visits generalizing s s' with
  | nil => exact ⟨rfl, hs⟩
  | cons v visits ih =>
      obtain ⟨hv, hrest⟩ := List.forall_mem_cons.mp hvisits
      obtain ⟨hresponse, hs'⟩ := (v.alike_work hv).run hs
      obtain ⟨hexchanges, hafter⟩ := ih hs' hrest
      rw [exchanges, exchanges, hresponse, hexchanges]
      exact ⟨rfl, hafter⟩

/-- Two stores that differ only in the hashes of passwords answer any requests but logins alike, and
differ only in hashes afterwards. If they differ in email addresses too, they still answer alike all
requests that are not for accounts: those for articles, for the comments on them, and for
profiles. -/
theorem private_columns_unseen (s s' : Store) (visits : List Visit) :
    (s.veil .hashes = s'.veil .hashes → (∀ v ∈ visits, ¬ v.request.IsLogin) →
      exchanges s visits = exchanges s' visits ∧
        (s.afterVisits visits).veil .hashes = (s'.afterVisits visits).veil .hashes) ∧
    (s.veil .hashesAndEmails = s'.veil .hashesAndEmails →
      (∀ v ∈ visits, ¬ v.request.IsForAccount) →
      exchanges s visits = exchanges s' visits ∧
        (s.afterVisits visits).veil .hashesAndEmails =
          (s'.afterVisits visits).veil .hashesAndEmails) := by
  constructor
  · intro hs hvisits
    exact exchanges_eq_of_veil_eq hs hvisits
  · intro hs hvisits
    exact exchanges_eq_of_veil_eq hs hvisits

namespace Sample

/-- The first article of `alice`, who has this email address and this hash. -/
def storeWith (email passwordHash : String) : Store :=
  { store [article 1 "hello" "Hello"] 1 with
    users := [{ alice with email := email, passwordHash := passwordHash }] }

def renameAlice : Request :=
  ⟨.put, "/api/user", "", asAlice, body "user" [("username", "bob")]⟩

def showAlice : Request := ⟨.get, "/api/profiles/alice", "", [], []⟩

/-- The request is made, and then the profile is read. -/
def thenShown (r : Request) : List Visit := [⟨app, moment, r⟩, ⟨app, moment, showAlice⟩]

theorem forall_thenShown {P : Visit → Prop} {r : Request} (hr : P ⟨app, moment, r⟩)
    (hshow : P ⟨app, moment, showAlice⟩) : ∀ v ∈ thenShown r, P v :=
  List.forall_mem_cons.mpr ⟨hr, List.forall_mem_singleton.mpr hshow⟩

end Sample

open Sample in
/-- `alice` takes another name, or gives her article another title; then her profile is read. -/
theorem private_columns_unseen_alice :
    exchanges (storeWith "a@b.co" "x") (thenShown renameAlice) =
        exchanges (storeWith "a@b.co" "y") (thenShown renameAlice) ∧
      exchanges (storeWith "a@b.co" "x") (thenShown (rename "hello" "New")) =
        exchanges (storeWith "c@d.co" "y") (thenShown (rename "hello" "New")) := by
  have hhashes := private_columns_unseen (storeWith "a@b.co" "x") (storeWith "a@b.co" "y")
    (thenShown renameAlice)
  have hemails := private_columns_unseen (storeWith "a@b.co" "x") (storeWith "c@d.co" "y")
    (thenShown (rename "hello" "New"))
  constructor
  · exact (hhashes.1 rfl (forall_thenShown (by decide) (by decide))).1
  · exact (hemails.2 rfl (forall_thenShown (by decide) (by decide))).1

end Weblog
