import Weblog.Proofs.Account.Token
import Weblog.Proofs.Service.History
import Weblog.Proofs.Service.Validity
import Weblog.Proofs.Store.Attribution

namespace Weblog

open Session Handler Application

/-- The request asks for what the route names, or for the head of that answer. -/
def Request.Reads (r : Request) (route : Route) : Prop :=
  (r.method = .get ∨ r.method = .head) ∧ Route.ofPath? r.path = some route

/-- The request asks for an article, for the comments on one, or for a page of the listing of all
articles. -/
def Request.ReadsAll (r : Request) : Prop :=
  (∃ raw, r.Reads (.article raw)) ∨ (∃ raw, r.Reads (.comments raw)) ∨
    r.Reads .articles ∧ ∀ q ∈ listQuery? r.query, q.onlyBy = none

/-- The request asks for a page of the listing of the author's articles. -/
def Request.ReadsListing (r : Request) (author : String) (limit offset : Option Int) : Prop :=
  r.Reads .articles ∧ listQuery? r.query = some ⟨limit, offset, some author⟩

/-- The request asks for the profile of the user with the name. -/
def Request.ReadsProfile (r : Request) (username : String) : Prop :=
  ∃ raw, r.Reads (.profile raw) ∧ parameter? raw = some username

/-- The visit is answered with the response, and nothing is written. -/
def Visit.Answers (v : Visit) (s : Store) (response : Response) : Prop :=
  v.work.run s = (complete v.app.audience v.moment v.request response, s)

theorem ListQuery.onlyBy_some {name : String} (hname : name ≠ "") (limit offset : Option Int) :
    ListQuery.onlyBy ⟨limit, offset, some name⟩ = some name := by
  simp [onlyBy, hname]

namespace Store

/-- The article that a path names. -/
def articleAt (s : Store) (raw : String) : Except RequestError (Authored Article) :=
  match parameter? raw with
  | none => .error (.malformedPath "slug")
  | some slug =>
    match s.authoredArticles.find? (·.thing.slug == slug) with
    | none => .error (.notFound "Article not found")
    | some row => .ok row

/-- The comments on an article, as they are shown. -/
def commentViews (s : Store) (row : Authored Article) : List CommentView :=
  (s.discussion row.thing.id).map Authored.commentView

/-- A page of the listing, and the number of articles in the whole of it. -/
def page (s : Store) (q : ListQuery) : ArticlePage :=
  ⟨(((s.listing q.onlyBy).drop q.skipped.toNat).take q.pageSize.toNat).map Authored.articleView,
    (s.articlesBy q.onlyBy).length⟩

/-- The page that a query asks for. -/
def pageAt (s : Store) (query : String) : Except RequestError ArticlePage :=
  match listQuery? query with
  | none => .error (.badRequest "Invalid query parameters")
  | some q => .ok (s.page q)

/-- The profile of the user with the name. -/
def profileOf (s : Store) (username : String) : Except RequestError Profile :=
  match s.userByName? username with
  | none => .error (.notFound "Profile not found")
  | some u => .ok u.profile

end Store

namespace Articles

theorem outcome_load_bind (raw : String) (f : Authored Article → Handler) (s : Store) :
    outcome (parameter "slug" raw >>= fun slug => load slug >>= f) s =
      match s.articleAt raw with
      | .ok row => outcome (f row) s
      | .error e => (.error e, s) := by
  rw [Store.articleAt]
  cases hraw : parameter? raw with
  | none =>
      rw [parameter, hraw]
      rfl
  | some slug =>
      rw [outcome_bind_of_ok (outcome_parameter hraw "slug" s)]
      have hask : outcome (work (Work.articleBySlug slug)) s =
          (.ok (s.authoredArticles.find? (·.thing.slug == slug)), s) := by
        rw [outcome_work, Work.articleBySlug, outcome_ask]
        rfl
      rw [outcome_bind, load, outcome_bind_of_ok hask]
      dsimp only
      cases s.authoredArticles.find? (·.thing.slug == slug) <;> rfl

theorem outcome_get (raw : String) (s : Store) :
    outcome (get raw) s = ((s.articleAt raw).map (answer 200), s) := by
  rw [get, outcome_load_bind]
  cases s.articleAt raw <;> rfl

theorem outcome_comments_at (raw : String) (s : Store) :
    outcome (comments raw) s =
      ((s.articleAt raw).map fun row => .json 200 (commentsReply (s.commentViews row)), s) := by
  rw [comments, outcome_load_bind]
  cases s.articleAt raw <;> rfl

theorem outcome_list_at (r : Request) (s : Store) :
    outcome (list r) s = ((s.pageAt r.query).map fun page => .json 200 page.reply, s) := by
  rw [Store.pageAt]
  cases hq : listQuery? r.query with
  | none =>
      rw [list, hq]
      rfl
  | some q => exact outcome_list hq s

end Articles

theorem Accounts.outcome_profile {raw username : String} (hraw : parameter? raw = some username)
    (s : Store) :
    outcome (profile raw) s = ((s.profileOf username).map fun p => .json 200 p.reply, s) := by
  have hask : outcome (work (Work.userByName username)) s = (.ok (s.userByName? username), s) := by
    rw [outcome_work, Work.userByName, outcome_ask]
    rfl
  rw [profile, outcome_bind_of_ok (outcome_parameter hraw "username" s), outcome_bind_of_ok hask,
    Store.profileOf]
  cases s.userByName? username <;> rfl

section

variable {s : Store} {v : Visit} {route : Route} {handler : Handler}

theorem Request.Reads.answers (hr : v.request.Reads route)
    (hhandler : handler? v.app.shared v.moment v.request route = some handler)
    {result : Except RequestError Response} (houtcome : outcome handler s = (result, s)) :
    v.Answers s (reply result) := by
  rw [Visit.Answers, Visit.work, run_respond v.app hr.2 hhandler, houtcome]

theorem Request.Reads.answers_article {raw : String} (hr : v.request.Reads (.article raw))
    (s : Store) : v.Answers s (reply ((s.articleAt raw).map (Articles.answer 200))) := by
  refine hr.answers ?_ (Articles.outcome_get raw s)
  rcases hr.1 with hmethod | hmethod <;> simp [handler?, hmethod]

theorem Request.Reads.answers_comments {raw : String} (hr : v.request.Reads (.comments raw))
    (s : Store) : v.Answers s (reply ((s.articleAt raw).map fun row =>
      .json 200 (commentsReply (s.commentViews row)))) :=
  hr.answers (handler?_comments hr.1 raw) (Articles.outcome_comments_at raw s)

theorem Request.Reads.answers_list (hr : v.request.Reads .articles) (s : Store) :
    v.Answers s (reply ((s.pageAt v.request.query).map fun page => .json 200 page.reply)) :=
  hr.answers (handler?_list hr.1) (Articles.outcome_list_at v.request s)

theorem Request.ReadsListing.answers {author : String} {limit offset : Option Int}
    (hr : v.request.ReadsListing author limit offset) (s : Store) :
    v.Answers s (.json 200 (s.page ⟨limit, offset, some author⟩).reply) := by
  have hanswers := hr.1.answers_list s
  rwa [Store.pageAt, hr.2] at hanswers

theorem Request.ReadsProfile.answers {username : String} (hr : v.request.ReadsProfile username)
    (s : Store) :
    v.Answers s (reply ((s.profileOf username).map fun p => .json 200 p.reply)) := by
  obtain ⟨raw, hreads, hraw⟩ := hr
  refine hreads.answers ?_ (Accounts.outcome_profile hraw s)
  rcases hreads.1 with hmethod | hmethod <;> simp [handler?, hmethod]

end

/-- The article as it is shown after the new name. -/
def ArticleView.renamed (old new : User) (a : ArticleView) : ArticleView :=
  { a with author := a.author.renamed old new }

/-- The comment as it is shown after the new name. -/
def CommentView.renamed (old new : User) (c : CommentView) : CommentView :=
  { c with author := c.author.renamed old new }

/-- The page as it is shown after the new name: as many articles, in the same order. -/
def ArticlePage.renamed (old new : User) (page : ArticlePage) : ArticlePage :=
  ⟨page.articles.map (·.renamed old new), page.articlesCount⟩

/-- Two answers to one request, of which the second shows the new name where the first shows the
old one, and all else alike. -/
inductive Response.Renamed (old new : User) : Response → Response → Prop
  | refusal (e : RequestError) : Renamed old new e.response e.response
  | article (a : ArticleView) :
      Renamed old new (.json 200 a.reply) (.json 200 (a.renamed old new).reply)
  | comments (cs : List CommentView) :
      Renamed old new (.json 200 (commentsReply cs))
        (.json 200 (commentsReply (cs.map (·.renamed old new))))
  | page (page : ArticlePage) :
      Renamed old new (.json 200 page.reply) (.json 200 (page.renamed old new).reply)

theorem Store.page_eq_renamed {s s' : Store} {old new : User} {q q' : ListQuery}
    (hsize : q'.pageSize = q.pageSize) (hskipped : q'.skipped = q.skipped)
    (hlisting : s'.articlesBy q'.onlyBy = (s.articlesBy q.onlyBy).map (Authored.renamed old new) ∧
      s'.listing q'.onlyBy = (s.listing q.onlyBy).map (Authored.renamed old new)) :
    s'.page q' = (s.page q).renamed old new := by
  rw [page, hlisting.1, hlisting.2, hsize, hskipped, page, ArticlePage.renamed, List.length_map,
    ← List.map_drop, ← List.map_take, List.map_map, List.map_map]
  rfl

namespace Store.Renames

variable {s s' : Store} {old new : User} (h : s.Renames s' old new)
include h

theorem articleAt (raw : String) :
    s'.articleAt raw = (s.articleAt raw).map (Authored.renamed old new) := by
  rw [Store.articleAt, Store.articleAt]
  cases parameter? raw with
  | none => rfl
  | some slug =>
      simp only [h.articleBySlug slug]
      cases s.authoredArticles.find? (·.thing.slug == slug) <;> rfl

theorem commentViews (row : Authored Article) :
    s'.commentViews (row.renamed old new) = (s.commentViews row).map (·.renamed old new) := by
  rw [Store.commentViews, Authored.renamed, h.discussion, List.map_map, Store.commentViews,
    List.map_map]
  rfl

/-- What all can read is read as before, but for the new name. -/
theorem readsAll {v : Visit} (hv : v.request.ReadsAll) :
    ∃ before after, v.Answers s before ∧ v.Answers s' after ∧
      Response.Renamed old new before after := by
  rcases hv with ⟨raw, hr⟩ | ⟨raw, hr⟩ | ⟨hr, hall⟩
  · refine ⟨_, _, hr.answers_article s, hr.answers_article s', ?_⟩
    rw [h.articleAt]
    cases s.articleAt raw with
    | error e => exact .refusal e
    | ok row => exact .article row.articleView
  · refine ⟨_, _, hr.answers_comments s, hr.answers_comments s', ?_⟩
    rw [h.articleAt]
    cases s.articleAt raw with
    | error e => exact .refusal e
    | ok row =>
        show Response.Renamed old new (.json 200 (commentsReply (s.commentViews row)))
          (.json 200 (commentsReply (s'.commentViews (row.renamed old new))))
        rw [h.commentViews row]
        exact .comments (s.commentViews row)
  · refine ⟨_, _, hr.answers_list s, hr.answers_list s', ?_⟩
    rw [pageAt, pageAt]
    cases hq : listQuery? v.request.query with
    | none => exact .refusal _
    | some q =>
        have hnone : q.onlyBy = none := hall q hq
        have hpage : s'.page q = (s.page q).renamed old new :=
          page_eq_renamed rfl rfl (hnone ▸ h.listing_none)
        simp only [hpage]
        exact .page (s.page q)

variable {limit offset : Option Int}

theorem page_new (hold : old.username ≠ "") (hnew : new.username ≠ "") :
    s'.page ⟨limit, offset, some new.username⟩ =
      (s.page ⟨limit, offset, some old.username⟩).renamed old new := by
  refine page_eq_renamed rfl rfl ?_
  rw [ListQuery.onlyBy_some hnew, ListQuery.onlyBy_some hold]
  exact h.listing_new

theorem page_old (hold : old.username ≠ "") :
    s'.page ⟨limit, offset, some old.username⟩ = ⟨[], 0⟩ := by
  rw [page, ListQuery.onlyBy_some hold, h.listing_old.1, h.listing_old.2, List.drop_nil,
    List.take_nil]
  rfl

theorem page_of_ne {name : String} (hname : name ≠ "") (hold : name ≠ old.username)
    (hnew : name ≠ new.username) :
    s'.page ⟨limit, offset, some name⟩ = s.page ⟨limit, offset, some name⟩ := by
  obtain ⟨hby, hlisting⟩ := h.listing_of_ne hold hnew
  rw [page, ListQuery.onlyBy_some hname, hby, hlisting, page, ListQuery.onlyBy_some hname]

theorem profileOf_old : s'.profileOf old.username = .error (.notFound "Profile not found") := by
  rw [profileOf, h.userByName?_old]

theorem profileOf_new : s'.profileOf new.username = .ok new.profile := by
  rw [profileOf, h.userByName?_new]

theorem profileOf_of_ne {name : String} (hold : name ≠ old.username) (hnew : name ≠ new.username) :
    s'.profileOf name = s.profileOf name := by
  rw [profileOf, h.userByName?_of_ne hold hnew, profileOf]

end Store.Renames

/-- A change of an account that gives a user another name changes nothing else. -/
theorem Accounts.renames_of_update {s s' : Store} (hs : s.Sound) {shared : Shared} {m : Moment}
    {r : Request} {response : Response} (h : outcome (update shared m r) s = (.ok response, s'))
    {old new : User} (hold : old ∈ s.users) (hnew : new ∈ s'.users) (hid : new.id = old.id)
    (hname : new.username ≠ old.username) : s.Renames s' old new := by
  have hother : new ∉ s.users := fun hmem =>
    hname (congrArg User.username (eq_of_key_eq hs.userIds hmem hold hid))
  obtain ⟨p, shown, -, -, ⟨-, rfl⟩ | ⟨columns, hupdate⟩⟩ := update_eq_ok h
  · exact absurd hnew hother
  have hsound := hs.updateUser hupdate
  rcases Store.updateUser_eq_ok hupdate with ⟨-, hnone, -⟩ | ⟨u, hu, -, -, rfl⟩
  · exact nomatch hnone
  obtain ⟨v, hv, hvnew⟩ := List.mem_map.mp hnew
  by_cases hvid : v.id = p.userId
  · rw [if_pos hvid] at hvnew
    have huid : u.id = p.userId := by simpa using List.find?_some hu
    have hnewid : new.id = p.userId := by rw [← hvnew, Store.changeUser, huid]
    refine ⟨hs, hsound, hold, hid, hname, ?_, rfl, rfl⟩
    rw [hvnew, ← hid, hnewid]
  · rw [if_neg hvid] at hvnew
    exact absurd (hvnew ▸ hv) hother

/-- What a new name changes of what is shown, in the tables and in what is answered. -/
structure Store.Reattributes (s s' : Store) (old new : User) : Prop where
  articles : s'.articles = s.articles
  comments : s'.comments = s.comments
  articleAuthors : s'.authoredArticles = s.authoredArticles.map fun row =>
    if row.thing.authorId = old.id then ⟨row.thing, new.profile⟩ else row
  commentAuthors : s'.authoredComments = s.authoredComments.map fun row =>
    if row.thing.authorId = old.id then ⟨row.thing, new.profile⟩ else row
  readsAll : ∀ v : Visit, v.request.ReadsAll → ∃ before after,
    v.Answers s before ∧ v.Answers s' after ∧ Response.Renamed old new before after
  listedByNew : ∀ (v v' : Visit) (limit offset : Option Int),
    v.request.ReadsListing old.username limit offset →
    v'.request.ReadsListing new.username limit offset →
    ∃ page : ArticlePage, v.Answers s (.json 200 page.reply) ∧
      v'.Answers s' (.json 200 (page.renamed old new).reply)
  listedByOld : ∀ (v : Visit) (limit offset : Option Int),
    v.request.ReadsListing old.username limit offset →
    v.Answers s' (.json 200 (ArticlePage.reply ⟨[], 0⟩))
  profileByNew : ∀ v : Visit, v.request.ReadsProfile new.username →
    v.Answers s' (.json 200 new.profile.reply)
  profileByOld : ∀ v : Visit, v.request.ReadsProfile old.username →
    v.Answers s' (RequestError.response (.notFound "Profile not found"))
  others : ∀ (v : Visit) (name : String), name ≠ old.username → name ≠ new.username →
    (v.request.ReadsProfile name ∨
      name ≠ "" ∧ ∃ limit offset, v.request.ReadsListing name limit offset) →
    ∃ response, v.Answers s response ∧ v.Answers s' response
  otherUsers : ∀ u, u ∈ s'.users ∧ u.id ≠ old.id ↔ u ∈ s.users ∧ u.id ≠ old.id

theorem Store.Renames.reattributes {s s' : Store} {old new : User} (h : s.Renames s' old new)
    (hold : old.username ≠ "") (hnew : new.username ≠ "") : s.Reattributes s' old new where
  articles := h.articles
  comments := h.comments
  articleAuthors := h.authoredArticles.trans (List.map_congr_left fun _ hrow => h.renamed_eq hrow)
  commentAuthors := h.authoredComments.trans (List.map_congr_left fun _ hrow => h.renamed_eq hrow)
  readsAll _ hv := h.readsAll hv
  listedByNew _ _ _ _ hv hv' :=
    ⟨_, hv.answers s, h.page_new hold hnew ▸ hv'.answers s'⟩
  listedByOld _ _ _ hv := h.page_old hold ▸ hv.answers s'
  profileByNew v hv := by
    have hanswers := hv.answers s'
    rwa [h.profileOf_new] at hanswers
  profileByOld v hv := by
    have hanswers := hv.answers s'
    rwa [h.profileOf_old] at hanswers
  others v name hne hne' := by
    rintro (hv | ⟨hname, limit, offset, hv⟩)
    · exact ⟨_, hv.answers s, h.profileOf_of_ne hne hne' ▸ hv.answers s'⟩
    · exact ⟨_, hv.answers s, h.page_of_ne hname hne hne' ▸ hv.answers s'⟩
  otherUsers u := by
    rw [h.mem_users_iff]
    constructor
    · rintro ⟨rfl | hu, hne⟩
      · exact absurd h.id hne
      · exact hu
    · exact fun hu => ⟨.inr hu, hu.2⟩

theorem Reachable.username_ne_empty {s : Store} (hs : Reachable s) {u : User} (hu : u ∈ s.users) :
    u.username ≠ "" := by
  have hvalid : s.Valid := hs.of_calls Store.valid_empty fun _ _ _ hq h => h.after hq.writesValid
  have hlength := (hvalid.users u hu).username.length_ge
  rintro hempty
  rw [hempty] at hlength
  exact absurd hlength (by decide)

/-- Whenever a user's name is changed, everything of the user's is shown with the new name, bio and
image, and nothing else is shown otherwise than before: what was listed by the old name is listed by
the new one, nothing is listed or found by the old name any more, and what is read of others is the
same. -/
theorem renaming_reattributes {s : Store} (hs : Reachable s) (app : Application) (m : Moment)
    (r : Request) (hmethod : r.method = .put) (hroute : Route.ofPath? r.path = some .user)
    (hstatus : ((app.respond m r).run s).1.status = 200) {old new : User} (hold : old ∈ s.users)
    (hnew : new ∈ ((app.respond m r).run s).2.users) (hid : new.id = old.id)
    (hname : new.username ≠ old.username) :
    s.Reattributes ((app.respond m r).run s).2 old new := by
  have hafter := (hs.respond app m r).username_ne_empty hnew
  obtain ⟨response, s', houtcome, hrun⟩ :=
    ok_of_status app hroute (handler?_changeAccount hmethod)
      (Nat.lt_of_le_of_lt (Nat.le_of_eq hstatus) (by decide))
  rw [hrun] at hnew ⊢
  have hrenames := Accounts.renames_of_update hs.sound houtcome hold hnew hid hname
  exact hrenames.reattributes (hs.username_ne_empty hold) hafter

namespace Sample

/-- `alice`, when she has taken another name. -/
def bob : User := { alice with username := "bob" }

theorem run_rename_author :
    ((app.respond moment renameAccount).run (remarked "hello" "Hello")).1.status = 200 ∧
      ((app.respond moment renameAccount).run (remarked "hello" "Hello")).2 =
        { remarked "hello" "Hello" with users := [bob] } := by
  have hroute : Route.ofPath? renameAccount.path = some .user := by decide
  rw [respond_asAlice hroute (by decide) rfl rfl, run_bind, run_finish]
  decide +kernel

/-- The listing is read, by the name of an author. -/
def listBy (name : String) : Visit :=
  ⟨app, moment, ⟨.get, "/api/articles", "author=" ++ name, [], []⟩⟩

theorem readsListing_alice : (listBy "alice").request.ReadsListing "alice" none none :=
  ⟨⟨.inl rfl, by decide⟩, by decide⟩

end Sample

open Sample in
theorem renaming_reattributes_alice :
    let s := remarked "hello" "Hello"
    let s' := ((app.respond moment renameAccount).run s).2
    Reachable s ∧ s.Reattributes s' alice bob ∧
      s'.authoredArticles = [⟨article 1 "hello" "Hello", bob.profile⟩] ∧
      s'.authoredComments = [⟨remark, bob.profile⟩] ∧
      (listBy "alice").Answers s' (.json 200 (ArticlePage.reply ⟨[], 0⟩)) := by
  obtain ⟨hstatus, hstore⟩ := run_rename_author
  have hs : Reachable (remarked "hello" "Hello") := served_remarked.reachable
  have hnew :
      bob ∈ ((app.respond moment renameAccount).run (remarked "hello" "Hello")).2.users := by
    rw [hstore]
    exact List.mem_singleton_self bob
  have hrenamed := renaming_reattributes hs app moment renameAccount rfl (by decide) hstatus
    (List.mem_singleton_self alice) hnew rfl (by decide)
  exact ⟨hs, hrenamed, hrenamed.articleAuthors, hrenamed.commentAuthors,
    hrenamed.listedByOld _ none none readsListing_alice⟩

end Weblog
