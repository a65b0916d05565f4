import Weblog.Proofs.Store.Work
import Weblog.Service.Application

namespace Weblog

open Session

theorem requireOwner_eq_ok {kind : Owned} {authorId : α → Int} {thing : Option α} {userId : Int}
    {a : α} (h : requireOwner kind authorId thing userId = .ok a) :
    thing = some a ∧ authorId a = userId := by
  cases thing with
  | none => exact nomatch h
  | some b =>
      rw [requireOwner] at h
      split at h
      · rename_i hown
        rw [← Except.ok.inj h]
        exact ⟨rfl, hown⟩
      · exact nomatch h

namespace Handler

variable {s s' : Store} {a : α}

/-- The request is for the user whom its token names. -/
def IsFor (shared : Shared) (m : Moment) (r : Request) (p : Principal) : Prop :=
  Principal.ofHeaders shared.tokens (clock m) (r.values "authorization") = .ok p

/-- The request carries the payload, and nothing in it is wrong. -/
def IsPayload (kind : PayloadKind α) (r : Request) (a : α) : Prop :=
  payload? kind r = some a ∧ kind.violations a = []

theorem outcome_workWith (toError : StoreError → RequestError) (w : Work α) (s : Store) :
    outcome (workWith toError w) s = ((outcome w s).1.mapError toError, (outcome w s).2) := by
  rw [outcome, workWith, ExceptT.run_mk, run_bind]
  rfl

theorem outcome_work (w : Work α) (s : Store) :
    outcome (work w) s =
      ((outcome w s).1.mapError StoreError.toRequestError, (outcome w s).2) :=
  outcome_workWith _ w s

theorem workWith_eq_ok {toError : StoreError → RequestError} {w : Work α}
    (h : outcome (workWith toError w) s = (.ok a, s')) : outcome w s = (.ok a, s') := by
  rw [outcome_workWith] at h
  rcases houtcome : outcome w s with ⟨e | b, t⟩ <;> rw [houtcome] at h
  · exact nomatch congrArg Prod.fst h
  · obtain ⟨hb, rfl⟩ := Prod.mk.inj h
    rw [Except.ok.inj hb]

theorem work_eq_ok {w : Work α} (h : outcome (work w) s = (.ok a, s')) :
    outcome w s = (.ok a, s') :=
  workWith_eq_ok h

theorem ofExcept_eq_ok {toError : ε → RequestError} {x : Except ε α}
    (h : outcome (ofExcept toError x) s = (.ok a, s')) : x = .ok a := by
  cases x with
  | error e => exact nomatch congrArg Prod.fst h
  | ok b => exact congrArg Except.ok (Except.ok.inj (congrArg Prod.fst h))

theorem found_eq_ok {message : String} {o : Option α}
    (h : outcome (found message o) s = (.ok a, s')) : o = some a := by
  cases o with
  | none => exact nomatch congrArg Prod.fst h
  | some b => exact congrArg some (Except.ok.inj (congrArg Prod.fst h))

theorem parameter_eq_ok {name raw text : String}
    (h : outcome (parameter name raw) s = (.ok text, s')) : parameter? raw = some text := by
  rw [parameter] at h
  cases hraw : parameter? raw <;> rw [hraw] at h
  · exact nomatch congrArg Prod.fst h
  · exact congrArg some (Except.ok.inj (congrArg Prod.fst h))

theorem principal_of_isFor {shared : Shared} {m : Moment} {r : Request} {p : Principal}
    (hp : IsFor shared m r p) : principal shared m r = pure p := by
  rw [principal, hp]
  rfl

theorem outcome_principal {shared : Shared} {m : Moment} {r : Request} {p : Principal}
    (hp : IsFor shared m r p) (s : Store) : outcome (principal shared m r) s = (.ok p, s) := by
  rw [principal_of_isFor hp]
  rfl

theorem outcome_principal_of_error {shared : Shared} {m : Moment} {r : Request} {e : RequestError}
    (h : Principal.ofHeaders shared.tokens (clock m) (r.values "authorization") = .error e)
    (s : Store) : outcome (principal shared m r) s = (.error e, s) := by
  rw [principal, h]
  rfl

theorem outcome_parameter {raw text : String} (hraw : parameter? raw = some text) (name : String)
    (s : Store) : outcome (parameter name raw) s = (.ok text, s) := by
  rw [parameter, hraw]
  rfl

theorem outcome_payload {kind : PayloadKind α} {r : Request} (h : IsPayload kind r a) (s : Store) :
    outcome (payload kind r) s = (.ok a, s) := by
  rw [payload, h.1]
  simp only [h.2]
  rfl

theorem payload_eq_ok {kind : PayloadKind α} {r : Request}
    (h : outcome (payload kind r) s = (.ok a, s')) : IsPayload kind r a := by
  rw [payload] at h
  cases hread : payload? kind r with
  | none =>
      rw [hread] at h
      exact nomatch congrArg Prod.fst h
  | some b =>
      rw [hread] at h
      cases hvalid : kind.violations b <;> simp only [hvalid] at h
      · exact Except.ok.inj (congrArg Prod.fst h) ▸ ⟨hread, hvalid⟩
      · exact nomatch congrArg Prod.fst h

theorem asks_workWith {P : Statement → Prop} {Q : α → Prop} (toError : StoreError → RequestError)
    {w : Work α} (hw : Asks P Q w) : Asks P Q (workWith toError w) := by
  refine ⟨hw.only.bind fun x hx => ?_⟩
  cases x with
  | error e => exact (asks_throw _).only
  | ok a => exact (asks_pure (hx a rfl)).only

theorem reads_workWith (toError : StoreError → RequestError) {w : Work α} (hw : Reads w) :
    Reads (workWith toError w) :=
  asks_workWith toError hw

theorem reads_work {w : Work α} (hw : Reads w) : Reads (work w) :=
  reads_workWith _ hw

theorem reads_ofExcept (toError : ε → RequestError) (x : Except ε α) :
    Reads (ofExcept toError x) := by
  cases x with
  | error e => exact reads_throw _
  | ok a => exact reads_pure a

theorem reads_found (message : String) (o : Option α) : Reads (found message o) := by
  cases o with
  | none => exact reads_throw _
  | some a => exact reads_pure a

theorem reads_principal (shared : Shared) (m : Moment) (r : Request) :
    Reads (principal shared m r) :=
  reads_ofExcept id _

theorem reads_parameter (name raw : String) : Reads (parameter name raw) := by
  rw [parameter]
  split
  · exact reads_pure _
  · exact reads_throw _

theorem reads_payload (kind : PayloadKind α) (r : Request) : Reads (payload kind r) := by
  rw [payload]
  split
  · exact reads_throw _
  · split
    · exact reads_pure _
    · exact reads_throw _

end Handler

open Handler

/-- What can become of a request that finds the store `s`: how its handler ends, and the store
after it. -/
inductive Effect (shared : Shared) (m : Moment) (r : Request) (s : Store) :
    Except RequestError Response × Store → Prop
  | unchanged (x : Except RequestError Response) : Effect shared m r s (x, s)
  | registered {draft : Registration} {passwordHash : String} {u : User} {s' : Store}
      (hmethod : r.method = .post) (hroute : Route.ofPath? r.path = some .users)
      (hdraft : IsPayload registration r draft)
      (hhash : shared.passwords.hash m.salt shared.hashCost draft.password = .ok passwordHash)
      (hinsert : s.insertUser draft.username draft.email passwordHash m.now = .ok (u, s')) :
      Effect shared m r s (.ok (Accounts.answer shared m 201 u), s')
  | changedAccount {p : Principal} {changes : AccountChanges} {passwordHash : Option String}
      {u : User} {s' : Store}
      (hmethod : r.method = .put) (hroute : Route.ofPath? r.path = some .user)
      (hp : Principal.ofHeaders shared.tokens (clock m) (r.values "authorization") = .ok p)
      (hchanges : IsPayload accountChanges r changes) (hsome : changes.isEmpty = false)
      (hhash : changes.password.mapM (shared.passwords.hash m.salt shared.hashCost) =
        .ok passwordHash)
      (hupdate : s.updateUser p.userId
        ⟨changes.username, changes.email, passwordHash, changes.bio, changes.image⟩ m.now =
          .ok (some u, s')) :
      Effect shared m r s (.ok (Accounts.answer shared m 200 u), s')
  | published {p : Principal} {u : User} {draft : ArticleDraft} {slug : String}
      (hmethod : r.method = .post) (hroute : Route.ofPath? r.path = some .articles)
      (hp : Principal.ofHeaders shared.tokens (clock m) (r.values "authorization") = .ok p)
      (hu : u ∈ s.users) (hup : u.id = p.userId) (hdraft : IsPayload articleDraft r draft)
      (htitle : Slug.ofTitle draft.title ≠ "")
      (hslug : Slug.choice? (Slug.ofTitle draft.title) m.now.seconds.toNat (s.slugsBut none) =
        some slug) :
      Effect shared m r s
        (.ok (Articles.answer 201 ⟨s.newArticle slug draft u.id m.now, u.profile⟩),
          s.withArticle (s.newArticle slug draft u.id m.now))
  | revised {p : Principal} {u : User} {a : Article} {raw : String} {changes : ArticleChanges}
      {slug : String} (hmethod : r.method = .put)
      (hroute : Route.ofPath? r.path = some (.article raw))
      (hp : Principal.ofHeaders shared.tokens (clock m) (r.values "authorization") = .ok p)
      (hraw : parameter? raw = some a.slug) (ha : a ∈ s.articles) (hu : u ∈ s.users)
      (hua : u.id = a.authorId) (hown : a.authorId = p.userId)
      (hchanges : IsPayload articleChanges r changes) (hsome : changes.isEmpty = false)
      (hslug : s.IsNewSlug a changes m.now slug) :
      Effect shared m r s
        (.ok (Articles.answer 200 ⟨Store.changeArticle a slug changes m.now, u.profile⟩),
          s.withRevision a.id slug changes m.now)
  | retracted {p : Principal} {a : Article} {raw : String} (hmethod : r.method = .delete)
      (hroute : Route.ofPath? r.path = some (.article raw))
      (hp : Principal.ofHeaders shared.tokens (clock m) (r.values "authorization") = .ok p)
      (hraw : parameter? raw = some a.slug) (ha : a ∈ s.articles) (hown : a.authorId = p.userId) :
      Effect shared m r s (.ok (.bare 204), (s.deleteArticle a.id).2)
  | remarked {p : Principal} {u : User} {a : Article} {raw : String} {draft : CommentDraft}
      (hmethod : r.method = .post) (hroute : Route.ofPath? r.path = some (.comments raw))
      (hp : Principal.ofHeaders shared.tokens (clock m) (r.values "authorization") = .ok p)
      (hraw : parameter? raw = some a.slug) (ha : a ∈ s.articles) (hu : u ∈ s.users)
      (hup : u.id = p.userId) (hdraft : IsPayload commentDraft r draft) :
      Effect shared m r s
        (.ok (.json 201 (Authored.commentView
          ⟨s.newComment a.id u.id draft.body m.now, u.profile⟩).reply),
          s.withComment (s.newComment a.id u.id draft.body m.now))
  | withdrawn {p : Principal} {a : Article} {c : Comment} {raw rawId : String}
      (hmethod : r.method = .delete) (hroute : Route.ofPath? r.path = some (.comment raw rawId))
      (hp : Principal.ofHeaders shared.tokens (clock m) (r.values "authorization") = .ok p)
      (hraw : Articles.commentParameters? raw rawId = some (a.slug, c.id)) (ha : a ∈ s.articles)
      (hc : c ∈ s.comments) (hca : c.articleId = a.id) (hown : c.authorId = p.userId) :
      Effect shared m r s (.ok (.bare 204), (s.deleteComment c.id).2)

section

variable {shared : Shared} {m : Moment} {r : Request} {s : Store}

theorem Effect.bind {w : ExceptT RequestError Session α}
    {f : α → ExceptT RequestError Session Response} (hw : Reads w)
    (hf : ∀ a, outcome w s = (.ok a, s) → Effect shared m r s (outcome (f a) s)) :
    Effect shared m r s (outcome (w >>= f) s) := by
  have hs := hw.outcome s
  rw [outcome_bind]
  rcases houtcome : outcome w s with ⟨e | a, s'⟩ <;> rw [houtcome] at hs
  · rw [show s' = s from hs]
    exact .unchanged _
  · rw [show s' = s from hs] at houtcome ⊢
    exact hf a houtcome

theorem Effect.of_reads {w : Handler} (hw : Reads w) : Effect shared m r s (outcome w s) := by
  have hs := hw.outcome s
  rw [show outcome w s = ((outcome w s).1, s) from Prod.ext rfl hs]
  exact .unchanged _

namespace Accounts

theorem reads_refuseIf (taken : Bool) (message : String) : Reads (refuseIf taken message) := by
  cases taken with
  | false => exact reads_pure _
  | true => exact reads_throw _

theorem reads_refuseForeign (userId : Int) (value : Option String)
    {lookup : String → Work (Option User)} (hlookup : ∀ value, Reads (lookup value))
    (message : String) : Reads (refuseForeign userId value lookup message) := by
  cases value with
  | none => exact reads_pure _
  | some value => exact (reads_work (hlookup value)).bind fun _ => reads_refuseIf _ _

theorem reads_hashes (password : Option String) : Reads (password.mapM (hash shared m)) := by
  cases password with
  | none => exact reads_pure _
  | some password => exact (reads_ofExcept _ _).bind fun _ => reads_pure _

theorem hashes_eq_ok {password passwordHash : Option String}
    (h : outcome (password.mapM (hash shared m)) s = (.ok passwordHash, s)) :
    password.mapM (shared.passwords.hash m.salt shared.hashCost) = .ok passwordHash := by
  cases password with
  | none => exact congrArg Except.ok (Except.ok.inj (congrArg Prod.fst h))
  | some password =>
      obtain ⟨made, t, hmade, hrest⟩ := outcome_bind_eq_ok h
      rw [← Except.ok.inj (congrArg Prod.fst hrest), Option.mapM_some, ofExcept_eq_ok hmade]
      rfl

theorem effect_register (hmethod : r.method = .post)
    (hroute : Route.ofPath? r.path = some .users) :
    Effect shared m r s (outcome (register shared m r) s) := by
  refine .bind (reads_payload _ _) fun draft hdraft => ?_
  refine .bind (reads_work (reads_ask rfl)) fun byEmail _ => ?_
  refine .bind (reads_refuseIf _ _) fun _ _ => ?_
  refine .bind (reads_work (reads_ask rfl)) fun byName _ => ?_
  refine .bind (reads_refuseIf _ _) fun _ _ => ?_
  refine .bind (reads_ofExcept _ _) fun passwordHash hhash => ?_
  rw [outcome_bind, outcome_work, Work.outcome_createUser]
  cases hinsert : s.insertUser draft.username draft.email passwordHash m.now with
  | ok written =>
      exact .registered hmethod hroute (payload_eq_ok hdraft) (ofExcept_eq_ok hhash) hinsert
  | error e => cases e <;> exact .unchanged _

theorem reads_login (r : Request) : Reads (login shared m r) := by
  refine (reads_payload _ _).bind fun given => ?_
  refine (reads_work (reads_ask rfl)).bind fun row => ?_
  cases row with
  | none => exact reads_throw _
  | some u =>
      refine (reads_ofExcept _ _).bind fun matching => ?_
      cases matching with
      | false => exact reads_throw _
      | true => exact reads_pure _

theorem reads_current (r : Request) : Reads (current shared m r) :=
  (reads_principal _ _ _).bind fun _ => (reads_work (reads_ask rfl)).bind fun _ =>
    (reads_found _ _).bind fun _ => reads_pure _

theorem reads_profile (username : String) : Reads (profile username) :=
  (reads_parameter _ _).bind fun _ => (reads_work (reads_ask rfl)).bind fun _ =>
    (reads_found _ _).bind fun _ => reads_pure _

theorem effect_update (hmethod : r.method = .put) (hroute : Route.ofPath? r.path = some .user) :
    Effect shared m r s (outcome (update shared m r) s) := by
  refine .bind (reads_principal _ _ _) fun p hp => ?_
  refine .bind (reads_payload _ _) fun changes hchanges => ?_
  cases hempty : changes.isEmpty with
  | true =>
      refine .of_reads ?_
      exact (reads_work (reads_ask rfl)).bind fun _ => (reads_found _ _).bind fun _ => reads_pure _
  | false =>
      refine .bind (reads_refuseForeign _ _ (fun _ => reads_ask rfl) _) fun _ _ => ?_
      refine .bind (reads_refuseForeign _ _ (fun _ => reads_ask rfl) _) fun _ _ => ?_
      refine .bind (reads_hashes _) fun passwordHash hhash => ?_
      rw [outcome_bind, outcome_workWith, Work.outcome_updateUser]
      cases hupdate : s.updateUser p.userId
          ⟨changes.username, changes.email, passwordHash, changes.bio, changes.image⟩ m.now with
      | error e => cases e <;> exact .unchanged _
      | ok written =>
          obtain ⟨_ | u, s'⟩ := written
          · rcases Store.updateUser_eq_ok hupdate with ⟨-, -, rfl⟩ | ⟨u, -, hu, -, -⟩
            · exact .unchanged _
            · exact nomatch hu
          · exact .changedAccount hmethod hroute (ofExcept_eq_ok hp) (payload_eq_ok hchanges) hempty
              (hashes_eq_ok hhash) hupdate

end Accounts

namespace Articles

theorem reads_load (slug : String) : Reads (load slug) :=
  (reads_work (reads_ask rfl)).bind fun _ => reads_found _ _

theorem reads_loadOwn (p : Principal) (slug : String) : Reads (loadOwn p slug) :=
  (reads_work (reads_ask rfl)).bind fun _ => reads_ofExcept _ _

theorem bySlug_eq_ok {slug : String} {row : Option (Authored Article)} {s' : Store}
    (h : outcome (work (Work.articleBySlug slug)) s = (.ok row, s')) :
    row = s.authoredArticles.find? (·.thing.slug == slug) := by
  have hask := work_eq_ok h
  rw [Work.articleBySlug, outcome_ask] at hask
  exact (Except.ok.inj (congrArg Prod.fst hask)).symm

theorem load_eq_ok {slug : String} {row : Authored Article} {s' : Store}
    (h : outcome (load slug) s = (.ok row, s')) :
    row ∈ s.authoredArticles ∧ row.thing.slug = slug := by
  obtain ⟨found, t, hrow, hfound⟩ := outcome_bind_eq_ok h
  have hfind := (bySlug_eq_ok hrow).symm.trans (found_eq_ok hfound)
  exact ⟨List.mem_of_find?_eq_some hfind, by simpa using List.find?_some hfind⟩

theorem loadOwn_eq_ok {p : Principal} {slug : String} {row : Authored Article} {s' : Store}
    (h : outcome (loadOwn p slug) s = (.ok row, s')) :
    row ∈ s.authoredArticles ∧ row.thing.slug = slug ∧ row.thing.authorId = p.userId := by
  obtain ⟨found, t, hrow, hfound⟩ := outcome_bind_eq_ok h
  obtain ⟨hsome, hown⟩ := requireOwner_eq_ok (ofExcept_eq_ok hfound)
  have hfind := (bySlug_eq_ok hrow).symm.trans hsome
  exact ⟨List.mem_of_find?_eq_some hfind, by simpa using List.find?_some hfind, hown⟩

theorem outcome_comment (id : Int) (s : Store) :
    outcome (work (Work.comment id)) s = (.ok (s.comments.find? (·.id == id)), s) := by
  rw [outcome_work, Work.comment, outcome_ask]
  rfl

theorem ownComment_eq_ok {a : Article} {p : Principal} {id : Int} {row : Option Comment}
    {own : Comment} {t t' : Store} (hrow : outcome (work (Work.comment id)) s = (.ok row, t))
    (hown : outcome (ofExcept OwnershipError.toRequestError (requireOwner .comment
      Comment.authorId (row.filter (·.articleId == a.id)) p.userId)) s = (.ok own, t')) :
    own ∈ s.comments ∧ own.id = id ∧ own.articleId = a.id ∧ own.authorId = p.userId := by
  obtain ⟨hsome, hauthor⟩ := requireOwner_eq_ok (ofExcept_eq_ok hown)
  obtain ⟨rfl, hon⟩ := Option.filter_eq_some_iff.mp hsome
  rw [outcome_comment] at hrow
  have hfind := Except.ok.inj (congrArg Prod.fst hrow)
  exact ⟨List.mem_of_find?_eq_some hfind, by simpa using List.find?_some hfind,
    by simpa using hon, hauthor⟩

theorem reads_list (r : Request) : Reads (list r) := by
  rw [list]
  split
  · exact reads_throw _
  · refine (reads_work ?_).bind fun _ => reads_pure _
    exact (reads_ask rfl).bind fun _ => (reads_ask rfl).bind fun _ => reads_pure _

theorem reads_get (slug : String) : Reads (get slug) :=
  (reads_parameter _ _).bind fun _ => (reads_load _).bind fun _ => reads_pure _

theorem reads_comments (slug : String) : Reads (comments slug) :=
  (reads_parameter _ _).bind fun _ => (reads_load _).bind fun _ =>
    (reads_work (reads_ask rfl)).bind fun _ => reads_pure _

variable {raw : String}

theorem effect_create (hs : s.Sound) (hmethod : r.method = .post)
    (hroute : Route.ofPath? r.path = some .articles) :
    Effect shared m r s (outcome (create shared m r) s) := by
  refine .bind (reads_principal _ _ _) fun p hp => ?_
  refine .bind (reads_payload _ _) fun draft hdraft => ?_
  by_cases htitle : Slug.ofTitle draft.title = ""
  · rw [outcome_bind, outcome_work, Work.outcome_createArticle_of_no_slug htitle]
    exact .unchanged _
  by_cases hauthor : ∃ u ∈ s.users, u.id = p.userId
  · obtain ⟨u, hu, hup⟩ := hauthor
    rw [outcome_bind, outcome_work, ← hup, Work.outcome_createArticle hs hu htitle]
    cases hslug : Slug.choice? (Slug.ofTitle draft.title) m.now.seconds.toNat
        (s.slugsBut none) with
    | none => exact .unchanged _
    | some slug =>
        exact .published hmethod hroute (ofExcept_eq_ok hp) hu hup (payload_eq_ok hdraft) htitle
          hslug
  · rw [outcome_bind, outcome_work, Work.outcome_createArticle_of_no_author hauthor]
    exact .unchanged _

theorem effect_update (hs : s.Sound) (hmethod : r.method = .put)
    (hroute : Route.ofPath? r.path = some (.article raw)) :
    Effect shared m r s (outcome (update shared m r raw) s) := by
  refine .bind (reads_principal _ _ _) fun p hp => ?_
  refine .bind (reads_parameter _ _) fun slug hraw => ?_
  refine .bind (reads_loadOwn _ _) fun own hload => ?_
  refine .bind (reads_payload _ _) fun changes hchanges => ?_
  obtain ⟨hmem, rfl, hown⟩ := loadOwn_eq_ok hload
  obtain ⟨ha, -⟩ := Store.of_mem_authoredArticles hmem
  rw [outcome_bind, outcome_work]
  rcases Work.outcome_updateArticle_cases hs own.thing changes m.now with
    ⟨e, houtcome⟩ | ⟨a, ha', hid, u, hu, hua, ⟨-, houtcome⟩ | ⟨hsome, newSlug, hslug, houtcome⟩⟩
  · rw [houtcome]
    exact .unchanged _
  · rw [houtcome]
    exact .unchanged _
  · obtain rfl := hs.article_eq ha' ha hid
    rw [houtcome]
    exact .revised hmethod hroute (ofExcept_eq_ok hp) (parameter_eq_ok hraw) ha hu hua hown
      (payload_eq_ok hchanges) hsome hslug

theorem effect_delete (hmethod : r.method = .delete)
    (hroute : Route.ofPath? r.path = some (.article raw)) :
    Effect shared m r s (outcome (delete shared m r raw) s) := by
  refine .bind (reads_principal _ _ _) fun p hp => ?_
  refine .bind (reads_parameter _ _) fun slug hraw => ?_
  refine .bind (reads_loadOwn _ _) fun own hload => ?_
  obtain ⟨hmem, rfl, hown⟩ := loadOwn_eq_ok hload
  obtain ⟨ha, -⟩ := Store.of_mem_authoredArticles hmem
  rw [outcome_bind, outcome_work, Work.outcome_deleteArticle_of_mem ha]
  exact .retracted hmethod hroute (ofExcept_eq_ok hp) (parameter_eq_ok hraw) ha hown

theorem effect_comment (hs : s.Sound) (hmethod : r.method = .post)
    (hroute : Route.ofPath? r.path = some (.comments raw)) :
    Effect shared m r s (outcome (comment shared m r raw) s) := by
  refine .bind (reads_principal _ _ _) fun p hp => ?_
  refine .bind (reads_parameter _ _) fun slug hraw => ?_
  refine .bind (reads_payload _ _) fun draft hdraft => ?_
  refine .bind (reads_load _) fun row hload => ?_
  obtain ⟨hmem, rfl⟩ := load_eq_ok hload
  obtain ⟨ha, -⟩ := Store.of_mem_authoredArticles hmem
  by_cases hauthor : ∃ u ∈ s.users, u.id = p.userId
  · obtain ⟨u, hu, hup⟩ := hauthor
    rw [outcome_bind, outcome_work, ← hup, Work.outcome_createComment hs ha hu]
    exact .remarked hmethod hroute (ofExcept_eq_ok hp) (parameter_eq_ok hraw) ha hu hup
      (payload_eq_ok hdraft)
  · rw [outcome_bind, outcome_work, Work.outcome_createComment_of_missing fun h => hauthor h.1]
    exact .unchanged _

theorem effect_deleteComment {rawId : String} (hmethod : r.method = .delete)
    (hroute : Route.ofPath? r.path = some (.comment raw rawId)) :
    Effect shared m r s (outcome (deleteComment shared m r raw rawId) s) := by
  refine .bind (reads_principal _ _ _) fun p hp => ?_
  cases hraw : commentParameters? raw rawId with
  | none => exact .unchanged _
  | some parameters =>
      obtain ⟨slug, id⟩ := parameters
      refine .bind (reads_load _) fun row hload => ?_
      refine .bind (reads_work (reads_ask rfl)) fun found hfound => ?_
      refine .bind (reads_ofExcept _ _) fun own hown => ?_
      obtain ⟨hmem, rfl⟩ := load_eq_ok hload
      obtain ⟨ha, -⟩ := Store.of_mem_authoredArticles hmem
      obtain ⟨hc, rfl, hon, hauthor⟩ := ownComment_eq_ok hfound hown
      rw [outcome_bind, outcome_work, Work.outcome_deleteComment_of_mem hc]
      exact .withdrawn hmethod hroute (ofExcept_eq_ok hp) hraw ha hc hon hauthor

end Articles

namespace Application

/-- The answer of a handler that has ended so. -/
def reply : Except RequestError Response → Response
  | .ok response => response
  | .error e => e.response

theorem run_finish (w : Handler) (s : Store) :
    (finish w).run s = (reply (outcome w s).1, (outcome w s).2) := by
  rw [finish, run_bind, outcome]
  rcases w.run.run s with ⟨_ | _, _⟩ <;> rfl

theorem reads_checkHealth (method : Method) :
    Reads (ExceptT.lift (checkHealth shared m method) : Handler) :=
  ⟨⟨rfl, fun _ => (asks_pure trivial).only⟩⟩

theorem method_eq {method : Method} (hmethod : method ≠ .get)
    (h : (if r.method = .head then .get else r.method) = method) : r.method = method := by
  split at h
  · exact absurd h.symm hmethod
  · exact h

theorem method_eq_get (h : (if r.method = .head then .get else r.method) = .get) :
    r.method = .get ∨ r.method = .head := by
  split at h
  · rename_i hhead
    exact .inr hhead
  · exact .inl h

/-- The handlers of the routes. Those that write are each for one method. -/
inductive Serves (shared : Shared) (m : Moment) (r : Request) : Route → Handler → Prop
  | health : Serves shared m r .health (ExceptT.lift (checkHealth shared m r.method))
  | register (hmethod : r.method = .post) : Serves shared m r .users (Accounts.register shared m r)
  | login (hmethod : r.method = .post) : Serves shared m r .login (Accounts.login shared m r)
  | current : Serves shared m r .user (Accounts.current shared m r)
  | changeAccount (hmethod : r.method = .put) :
      Serves shared m r .user (Accounts.update shared m r)
  | profile (username : String) : Serves shared m r (.profile username) (Accounts.profile username)
  | list (hmethod : r.method = .get ∨ r.method = .head) :
      Serves shared m r .articles (Articles.list r)
  | publish (hmethod : r.method = .post) : Serves shared m r .articles (Articles.create shared m r)
  | article (slug : String) (hmethod : r.method = .get ∨ r.method = .head) :
      Serves shared m r (.article slug) (Articles.get slug)
  | revise (hmethod : r.method = .put) (slug : String) :
      Serves shared m r (.article slug) (Articles.update shared m r slug)
  | retract (hmethod : r.method = .delete) (slug : String) :
      Serves shared m r (.article slug) (Articles.delete shared m r slug)
  | comments (slug : String) (hmethod : r.method = .get ∨ r.method = .head) :
      Serves shared m r (.comments slug) (Articles.comments slug)
  | remark (hmethod : r.method = .post) (slug : String) :
      Serves shared m r (.comments slug) (Articles.comment shared m r slug)
  | withdraw (hmethod : r.method = .delete) (slug id : String) :
      Serves shared m r (.comment slug id) (Articles.deleteComment shared m r slug id)

theorem serves_of_handler? {route : Route} {handler : Handler}
    (h : handler? shared m r route = some handler) : Serves shared m r route handler := by
  simp only [handler?] at h
  split at h <;> rename_i hmethod
  case h_15 => exact nomatch h
  all_goals rw [← Option.some.inj h]
  case h_1 => exact .health
  case h_2 => exact .register (method_eq (by decide) hmethod)
  case h_3 => exact .login (method_eq (by decide) hmethod)
  case h_4 => exact .current
  case h_5 => exact .changeAccount (method_eq (by decide) hmethod)
  case h_6 => exact .profile _
  case h_7 => exact .list (method_eq_get hmethod)
  case h_8 => exact .publish (method_eq (by decide) hmethod)
  case h_9 => exact .article _ (method_eq_get hmethod)
  case h_10 => exact .revise (method_eq (by decide) hmethod) _
  case h_11 => exact .retract (method_eq (by decide) hmethod) _
  case h_12 => exact .comments _ (method_eq_get hmethod)
  case h_13 => exact .remark (method_eq (by decide) hmethod) _
  case h_14 => exact .withdraw (method_eq (by decide) hmethod) _ _

theorem effect_handler {route : Route} {handler : Handler} (hs : s.Sound)
    (hroute : Route.ofPath? r.path = some route) (h : handler? shared m r route = some handler) :
    Effect shared m r s (outcome handler s) := by
  cases serves_of_handler? h with
  | health => exact .of_reads (reads_checkHealth _)
  | register hmethod => exact Accounts.effect_register hmethod hroute
  | login => exact .of_reads (Accounts.reads_login r)
  | current => exact .of_reads (Accounts.reads_current r)
  | changeAccount hmethod => exact Accounts.effect_update hmethod hroute
  | profile username => exact .of_reads (Accounts.reads_profile username)
  | list => exact .of_reads (Articles.reads_list r)
  | publish hmethod => exact Articles.effect_create hs hmethod hroute
  | article slug => exact .of_reads (Articles.reads_get slug)
  | revise hmethod slug => exact Articles.effect_update hs hmethod hroute
  | retract hmethod slug => exact Articles.effect_delete hmethod hroute
  | comments slug => exact .of_reads (Articles.reads_comments slug)
  | remark hmethod slug => exact Articles.effect_comment hs hmethod hroute
  | withdraw hmethod slug id => exact Articles.effect_deleteComment hmethod hroute

theorem isSome_handler? (shared : Shared) (m : Moment) (r : Request) (route : Route) :
    (handler? shared m r route).isSome = true ↔ r.method ∈ route.methods := by
  obtain ⟨method, path, query, headers, body⟩ := r
  cases route <;> cases method <;> simp [handler?, Route.methods]

theorem exists_handler? (shared : Shared) (m : Moment) {route : Route}
    (hmethod : r.method ∈ route.methods) : ∃ handler, handler? shared m r route = some handler :=
  Option.isSome_iff_exists.mp ((isSome_handler? shared m r route).mpr hmethod)

theorem handler?_changeAccount (hmethod : r.method = .put) :
    handler? shared m r .user = some (Accounts.update shared m r) := by
  simp only [handler?, hmethod]
  rfl

theorem handler?_list (hmethod : r.method = .get ∨ r.method = .head) :
    handler? shared m r .articles = some (Articles.list r) := by
  rcases hmethod with hmethod | hmethod <;> simp [handler?, hmethod]

theorem handler?_comments (hmethod : r.method = .get ∨ r.method = .head) (raw : String) :
    handler? shared m r (.comments raw) = some (Articles.comments raw) := by
  rcases hmethod with hmethod | hmethod <;> simp [handler?, hmethod]

theorem ne_options_of_handler? {route : Route} {handler : Handler}
    (h : handler? shared m r route = some handler) : r.method ≠ .options := by
  intro hoptions
  cases route <;> simp [handler?, hoptions] at h

theorem handle_of_handler? {route : Route} {handler : Handler}
    (hroute : Route.ofPath? r.path = some route)
    (h : handler? shared m r route = some handler) : handle shared m r = finish handler := by
  rw [handle, hroute]
  simp only [if_neg (ne_options_of_handler? h), h]

theorem effect_handle (hs : s.Sound) (shared : Shared) (m : Moment) (r : Request) :
    ∃ x, Effect shared m r s (x, ((handle shared m r).run s).2) ∧
      ((handle shared m r).run s).1 = reply x := by
  rw [handle]
  split
  · exact ⟨.ok _, .unchanged _, rfl⟩
  · rename_i route hroute
    split
    · exact ⟨.ok _, .unchanged _, rfl⟩
    · split
      · rename_i handler hhandler
        rw [run_finish]
        exact ⟨(outcome handler s).1, effect_handler hs hroute hhandler, rfl⟩
      · exact ⟨.ok _, .unchanged _, rfl⟩

/-- What can become of a request that is answered alone. -/
theorem effect_respond (hs : s.Sound) (app : Application) (m : Moment) (r : Request) :
    ∃ x, Effect app.shared m r s (x, ((app.respond m r).run s).2) ∧
      ((app.respond m r).run s).1 = complete app.audience m r (reply x) := by
  obtain ⟨x, heffect, hreply⟩ := effect_handle hs app.shared m r
  rw [respond, run_bind]
  exact ⟨x, heffect, congrArg (complete app.audience m r) hreply⟩

end Application

end

end Weblog
