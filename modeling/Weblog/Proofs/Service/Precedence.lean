import Weblog.Proofs.Service.Reachability
import Weblog.Proofs.Service.Refusals
import Weblog.Proofs.Service.Success

namespace Weblog

open Session Handler

/-- What a request is to change or to delete: an article; or a comment, with no number where the
path has none. -/
inductive Target where
  | article (slug : String)
  | comment (slug : String) (id : Option Int)

/-- The request is to change or to delete the target, and its path is text. -/
inductive Request.IsAimedAt (r : Request) : Target → Prop
  | article {raw slug : String} (hmethod : r.method = .put ∨ r.method = .delete)
      (hroute : Route.ofPath? r.path = some (.article raw)) (hslug : parameter? raw = some slug) :
      IsAimedAt r (.article slug)
  | comment {raw rawId slug id : String} (hmethod : r.method = .delete)
      (hroute : Route.ofPath? r.path = some (.comment raw rawId))
      (hslug : parameter? raw = some slug) (hid : parameter? rawId = some id) :
      IsAimedAt r (.comment slug (Text.signed? 64 id))

/-- The target is there, and this is its author. A comment is there on its own article only. -/
inductive Store.HasTarget (s : Store) : Target → Int → Prop
  | article {a : Article} (ha : a ∈ s.articles) : HasTarget s (.article a.slug) a.authorId
  | comment {a : Article} {c : Comment} (ha : a ∈ s.articles) (hc : c ∈ s.comments)
      (hon : c.articleId = a.id) : HasTarget s (.comment a.slug (some c.id)) c.authorId

theorem Store.hasTarget_article_iff {s : Store} {slug : String} {n : Int} :
    s.HasTarget (.article slug) n ↔ ∃ a ∈ s.articles, a.slug = slug ∧ a.authorId = n := by
  constructor
  · rintro ⟨ha⟩
    exact ⟨_, ha, rfl, rfl⟩
  · rintro ⟨a, ha, rfl, rfl⟩
    exact .article ha

/-- The requests differ at most in their bodies, and in what is said of them. -/
structure Request.SameButBody (r r' : Request) : Prop where
  method : r'.method = r.method
  path : r'.path = r.path
  values : ∀ name, name ≠ "content-type" → name ≠ "content-length" →
    r'.values name = r.values name

/-- Why a request that is aimed at the target is refused before its body is looked at: its token
comes first, then its path, then what is there, and then whose it is. -/
inductive Refusal (s : Store) : Except RequestError Principal → Target → RequestError → Prop
  | unauthorized (message : String) (target : Target) :
      Refusal s (.error (.unauthorized message)) target (.unauthorized message)
  | unreadable (p : Principal) (slug : String) :
      Refusal s (.ok p) (.comment slug none) (.badRequest "Invalid path parameters")
  | noArticle (p : Principal) {slug : String} (hmissing : ∀ a ∈ s.articles, a.slug ≠ slug) :
      Refusal s (.ok p) (.article slug) (.notFound "Article not found")
  | noArticleOfComment (p : Principal) {slug : String} (hmissing : ∀ a ∈ s.articles, a.slug ≠ slug)
      (id : Int) : Refusal s (.ok p) (.comment slug (some id)) (.notFound "Article not found")
  | noComment (p : Principal) {a : Article} (ha : a ∈ s.articles) {id : Int}
      (hmissing : ∀ c ∈ s.comments, c.id = id → c.articleId ≠ a.id) :
      Refusal s (.ok p) (.comment a.slug (some id)) (.notFound "Comment not found")
  | foreignArticle {p : Principal} {a : Article} (ha : a ∈ s.articles)
      (hforeign : a.authorId ≠ p.userId) : Refusal s (.ok p) (.article a.slug)
        (.forbidden "You can only modify your own articles")
  | foreignComment {p : Principal} {a : Article} {c : Comment} (ha : a ∈ s.articles)
      (hc : c ∈ s.comments) (hon : c.articleId = a.id) (hforeign : c.authorId ≠ p.userId) :
      Refusal s (.ok p) (.comment a.slug (some c.id))
        (.forbidden "You can only delete your own comments")

section

variable {shared : Shared} {m : Moment} {r : Request} {s : Store} {e : RequestError}

theorem outcome_payload_of_none {α : Type} {kind : PayloadKind α}
    (h : ∀ a, ¬ IsPayload kind r a) :
    ∃ e, outcome (payload kind r) s = (.error e, s) ∧ e.status = 400 := by
  rw [payload]
  cases hread : payload? kind r with
  | none => exact ⟨_, rfl, rfl⟩
  | some a =>
      cases hvalid : kind.violations a with
      | nil => exact absurd ⟨hread, hvalid⟩ (h a)
      | cons violation rest =>
          refine ⟨.invalid (violation :: rest), ?_, rfl⟩
          simp only [hvalid]
          rfl

namespace Application

theorem handler?_update (hmethod : r.method = .put) (raw : String) :
    handler? shared m r (.article raw) = some (Articles.update shared m r raw) := by
  simp only [handler?, hmethod]
  rfl

theorem handler?_delete (hmethod : r.method = .delete) (raw : String) :
    handler? shared m r (.article raw) = some (Articles.delete shared m r raw) := by
  simp only [handler?, hmethod]
  rfl

theorem handler?_deleteComment (hmethod : r.method = .delete) (raw rawId : String) :
    handler? shared m r (.comment raw rawId) =
      some (Articles.deleteComment shared m r raw rawId) := by
  simp only [handler?, hmethod]
  rfl

end Application

namespace Articles

theorem outcome_bySlug_of_missing {slug : String} (hmissing : ∀ a ∈ s.articles, a.slug ≠ slug) :
    outcome (work (Work.articleBySlug slug)) s = (.ok none, s) := by
  have hnone : s.authoredArticles.find? (·.thing.slug == slug) = none := by
    rw [List.find?_eq_none]
    intro row hrow
    simpa using hmissing row.thing (Store.of_mem_authoredArticles hrow).1
  rw [outcome_work, Work.articleBySlug, outcome_ask, ← hnone]
  rfl

theorem outcome_load_of_missing {slug : String} (hmissing : ∀ a ∈ s.articles, a.slug ≠ slug) :
    outcome (load slug) s = (.error (.notFound "Article not found"), s) :=
  outcome_bind_of_ok (outcome_bySlug_of_missing hmissing)

theorem outcome_loadOwn_of_missing {slug : String} (hmissing : ∀ a ∈ s.articles, a.slug ≠ slug)
    (p : Principal) :
    outcome (loadOwn p slug) s = (.error (.notFound "Article not found"), s) :=
  outcome_bind_of_ok (outcome_bySlug_of_missing hmissing)

theorem outcome_loadOwn (hs : s.Sound) {a : Article} (ha : a ∈ s.articles) (p : Principal) :
    ∃ author, outcome (loadOwn p a.slug) s =
      (if a.authorId = p.userId then .ok ⟨a, author⟩
        else .error (.forbidden "You can only modify your own articles"), s) := by
  obtain ⟨author, hload⟩ := outcome_bySlug hs ha
  refine ⟨author, (outcome_bind_of_ok hload).trans ?_⟩
  rw [requireOwner]
  split <;> rfl

theorem outcome_own_of_refusal (hs : s.Sound) {raw slug : String}
    (hraw : parameter? raw = some slug)
    (h : Refusal s (Principal.ofHeaders shared.tokens (clock m) (r.values "authorization"))
      (.article slug) e) (next : Principal → Authored Article → Handler) :
    outcome (do
      let p ← principal shared m r
      let slug ← parameter "slug" raw
      let own ← loadOwn p slug
      next p own) s = (.error e, s) := by
  generalize hx : Principal.ofHeaders shared.tokens (clock m) (r.values "authorization") = x at h
  cases h with
  | unauthorized message => exact outcome_bind_of_error (outcome_principal_of_error hx s)
  | noArticle p hmissing =>
      rw [outcome_bind_of_ok (outcome_principal hx s),
        outcome_bind_of_ok (outcome_parameter hraw "slug" s)]
      exact outcome_bind_of_error (outcome_loadOwn_of_missing hmissing p)
  | @foreignArticle p a ha hforeign =>
      obtain ⟨author, hload⟩ := outcome_loadOwn hs ha p
      rw [if_neg hforeign] at hload
      rw [outcome_bind_of_ok (outcome_principal hx s),
        outcome_bind_of_ok (outcome_parameter hraw "slug" s)]
      exact outcome_bind_of_error hload

theorem outcome_own (hs : s.Sound) {raw : String} {p : Principal} (hp : IsFor shared m r p)
    {a : Article} (ha : a ∈ s.articles) (hraw : parameter? raw = some a.slug)
    (hown : a.authorId = p.userId) (next : Principal → Authored Article → Handler) :
    ∃ author, outcome (do
      let p ← principal shared m r
      let slug ← parameter "slug" raw
      let own ← loadOwn p slug
      next p own) s = outcome (next p ⟨a, author⟩) s := by
  obtain ⟨author, hload⟩ := outcome_loadOwn hs ha p
  rw [if_pos hown] at hload
  rw [outcome_bind_of_ok (outcome_principal hp s),
    outcome_bind_of_ok (outcome_parameter hraw "slug" s), outcome_bind_of_ok hload]
  exact ⟨author, rfl⟩

theorem outcome_delete_own (hs : s.Sound) {raw : String} {p : Principal} (hp : IsFor shared m r p)
    {a : Article} (ha : a ∈ s.articles) (hraw : parameter? raw = some a.slug)
    (hown : a.authorId = p.userId) :
    outcome (delete shared m r raw) s = (.ok (.bare 204), (s.deleteArticle a.id).2) := by
  have hdelete : outcome (work (Work.deleteArticle a.id)) s =
      (.ok (), (s.deleteArticle a.id).2) := by
    rw [outcome_work, Work.outcome_deleteArticle_of_mem ha]
    rfl
  obtain ⟨author, houtcome⟩ := outcome_own hs hp ha hraw hown fun _ own => do
    work (Work.deleteArticle own.thing.id)
    return .bare 204
  rw [delete, houtcome]
  exact outcome_bind_of_ok hdelete

theorem outcome_update_own (hs : s.Sound) {raw : String} {p : Principal} (hp : IsFor shared m r p)
    {a : Article} (ha : a ∈ s.articles) (hraw : parameter? raw = some a.slug)
    (hown : a.authorId = p.userId) :
    outcome (update shared m r raw) s = outcome (do
      let changes ← payload articleChanges r
      return answer 200 (← work (Work.updateArticle a changes m.now))) s := by
  obtain ⟨author, houtcome⟩ := outcome_own hs hp ha hraw hown fun _ own => do
    let changes ← payload articleChanges r
    return answer 200 (← work (Work.updateArticle own.thing changes m.now))
  exact houtcome

theorem find?_comment_on (hs : s.Sound) {a : Article} {c : Comment} (hc : c ∈ s.comments)
    (hon : c.articleId = a.id) :
    (s.comments.find? (·.id == c.id)).filter (·.articleId == a.id) = some c := by
  have hfind : s.comments.find? (·.id == c.id) = some c := find?_key_eq hs.commentIds hc
  rw [hfind, Option.filter_some, hon, beq_self_eq_true, if_pos rfl]

theorem find?_comment_elsewhere {a : Article} {id : Int}
    (hmissing : ∀ c ∈ s.comments, c.id = id → c.articleId ≠ a.id) :
    (s.comments.find? (·.id == id)).filter (·.articleId == a.id) = none := by
  rw [Option.filter_eq_none_iff]
  intro c hc
  have hid : c.id = id := by simpa using List.find?_some hc
  simpa using hmissing c (List.mem_of_find?_eq_some hc) hid

theorem commentParameters?_eq {raw rawId slug id : String} (hslug : parameter? raw = some slug)
    (hid : parameter? rawId = some id) :
    commentParameters? raw rawId = (Text.signed? 64 id).map (slug, ·) := by
  rw [commentParameters?, hslug, hid, Option.map_eq_bind]
  rfl

theorem outcome_deleteComment (hs : s.Sound) {raw rawId : String} {p : Principal}
    (hp : IsFor shared m r p) {a : Article} (ha : a ∈ s.articles) {id : Int}
    (hparameters : commentParameters? raw rawId = some (a.slug, id)) :
    outcome (deleteComment shared m r raw rawId) s = outcome (do
      let own ← ofExcept OwnershipError.toRequestError (requireOwner .comment Comment.authorId
        ((s.comments.find? (·.id == id)).filter (·.articleId == a.id)) p.userId)
      work (Work.deleteComment own.id)
      return .bare 204) s := by
  obtain ⟨author, hload⟩ := outcome_load hs ha
  rw [deleteComment, outcome_bind_of_ok (outcome_principal hp s), hparameters]
  refine (outcome_bind_of_ok hload).trans ?_
  exact outcome_bind_of_ok (outcome_comment id s)

theorem outcome_deleteComment_of_refusal (hs : s.Sound) {raw rawId slug id : String}
    (hslug : parameter? raw = some slug) (hid : parameter? rawId = some id)
    (h : Refusal s (Principal.ofHeaders shared.tokens (clock m) (r.values "authorization"))
      (.comment slug (Text.signed? 64 id)) e) :
    outcome (deleteComment shared m r raw rawId) s = (.error e, s) := by
  have hparameters := commentParameters?_eq hslug hid
  generalize hx : Principal.ofHeaders shared.tokens (clock m) (r.values "authorization") = x at h
  generalize Text.signed? 64 id = number at h hparameters
  cases h with
  | unauthorized message => exact outcome_bind_of_error (outcome_principal_of_error hx s)
  | unreadable p =>
      rw [deleteComment, outcome_bind_of_ok (outcome_principal hx s), hparameters]
      rfl
  | noArticleOfComment p hmissing number =>
      rw [deleteComment, outcome_bind_of_ok (outcome_principal hx s), hparameters]
      exact outcome_bind_of_error (outcome_load_of_missing hmissing)
  | @noComment p a ha number hmissing =>
      rw [outcome_deleteComment hs hx ha hparameters, find?_comment_elsewhere hmissing]
      rfl
  | @foreignComment p a c ha hc hon hforeign =>
      have howner : requireOwner .comment Comment.authorId (some c) p.userId =
          .error (.foreign .comment) := if_neg hforeign
      rw [outcome_deleteComment hs hx ha hparameters, find?_comment_on hs hc hon, howner]
      rfl

theorem outcome_deleteComment_own (hs : s.Sound) {raw rawId id : String} {p : Principal}
    (hp : IsFor shared m r p) {a : Article} {c : Comment} (ha : a ∈ s.articles)
    (hc : c ∈ s.comments) (hon : c.articleId = a.id) (hown : c.authorId = p.userId)
    (hslug : parameter? raw = some a.slug) (hid : parameter? rawId = some id)
    (hnumber : Text.signed? 64 id = some c.id) :
    outcome (deleteComment shared m r raw rawId) s =
      (.ok (.bare 204), (s.deleteComment c.id).2) := by
  have hparameters : commentParameters? raw rawId = some (a.slug, c.id) := by
    rw [commentParameters?_eq hslug hid, hnumber, Option.map_some]
  have howner : requireOwner .comment Comment.authorId (some c) p.userId = .ok c := if_pos hown
  have hdelete : outcome (work (Work.deleteComment c.id)) s =
      (.ok (), (s.deleteComment c.id).2) := by
    rw [outcome_work, Work.outcome_deleteComment_of_mem hc]
    rfl
  rw [outcome_deleteComment hs hp ha hparameters, find?_comment_on hs hc hon, howner]
  exact outcome_bind_of_ok hdelete

end Articles

theorem exists_refusal_of_missing {target : Target} (p : Principal)
    (hreadable : ∀ slug, target ≠ .comment slug none) (hmissing : ∀ n, ¬ s.HasTarget target n) :
    ∃ e, Refusal s (.ok p) target e ∧ e.status = 404 := by
  cases target with
  | article slug =>
      refine ⟨_, .noArticle p ?_, rfl⟩
      rintro a ha rfl
      exact hmissing _ (.article ha)
  | comment slug id =>
      cases id with
      | none => exact absurd rfl (hreadable slug)
      | some id =>
          by_cases hthere : ∃ a ∈ s.articles, a.slug = slug
          · obtain ⟨a, ha, rfl⟩ := hthere
            refine ⟨_, .noComment p ha ?_, rfl⟩
            rintro c hc rfl hon
            exact hmissing _ (.comment ha hc hon)
          · refine ⟨_, .noArticleOfComment p ?_ id, rfl⟩
            exact fun a ha hslug => hthere ⟨a, ha, hslug⟩

theorem exists_refusal_of_foreign {target : Target} {p : Principal} {n : Int}
    (hn : s.HasTarget target n) (hforeign : n ≠ p.userId) :
    ∃ e, Refusal s (.ok p) target e ∧ e.status = 403 := by
  cases hn with
  | article ha => exact ⟨_, .foreignArticle ha hforeign, rfl⟩
  | comment ha hc hon => exact ⟨_, .foreignComment ha hc hon hforeign, rfl⟩

/-- Every request with a target is refused, or is one of the author. -/
theorem refused_or_own (s : Store) (service : TokenService) (now : Nat) (values : List String)
    (target : Target) :
    (∃ e, Refusal s (Principal.ofHeaders service now values) target e) ∨
      ∃ p, Principal.ofHeaders service now values = .ok p ∧ s.HasTarget target p.userId := by
  rcases hx : Principal.ofHeaders service now values with e | p
  · obtain ⟨message, rfl⟩ := Principal.ofHeaders_eq_error hx
    exact .inl ⟨_, .unauthorized message target⟩
  cases target with
  | article slug =>
      by_cases hthere : ∃ a ∈ s.articles, a.slug = slug
      case neg =>
        refine .inl ⟨_, .noArticle p fun a ha hslug => hthere ⟨a, ha, hslug⟩⟩
      obtain ⟨a, ha, rfl⟩ := hthere
      by_cases hown : a.authorId = p.userId
      · exact .inr ⟨p, rfl, hown ▸ .article ha⟩
      · exact .inl ⟨_, .foreignArticle ha hown⟩
  | comment slug id =>
      cases id with
      | none => exact .inl ⟨_, .unreadable p slug⟩
      | some id =>
          by_cases hthere : ∃ a ∈ s.articles, a.slug = slug
          case neg =>
            refine .inl ⟨_, .noArticleOfComment p (fun a ha hslug => hthere ⟨a, ha, hslug⟩) id⟩
          obtain ⟨a, ha, rfl⟩ := hthere
          by_cases hfound : ∃ c ∈ s.comments, c.id = id ∧ c.articleId = a.id
          case neg =>
            refine .inl ⟨_, .noComment p ha fun c hc hid hon => hfound ⟨c, hc, hid, hon⟩⟩
          obtain ⟨c, hc, rfl, hon⟩ := hfound
          by_cases hown : c.authorId = p.userId
          · exact .inr ⟨p, rfl, hown ▸ .comment ha hc hon⟩
          · exact .inl ⟨_, .foreignComment ha hc hon hown⟩

theorem Refusal.run_respond (hs : s.Sound) {app : Application} {target : Target}
    (htarget : r.IsAimedAt target)
    (h : Refusal s (Principal.ofHeaders app.shared.tokens (clock m) (r.values "authorization"))
      target e) :
    (app.respond m r).run s = (Application.complete app.audience m r e.response, s) := by
  cases htarget with
  | @article raw slug hmethod hroute hslug =>
      rcases hmethod with hmethod | hmethod
      · have houtcome : outcome (Articles.update app.shared m r raw) s = (.error e, s) :=
          Articles.outcome_own_of_refusal hs hslug h _
        rw [Application.run_respond app hroute (Application.handler?_update hmethod raw), houtcome]
        rfl
      · have houtcome : outcome (Articles.delete app.shared m r raw) s = (.error e, s) :=
          Articles.outcome_own_of_refusal hs hslug h _
        rw [Application.run_respond app hroute (Application.handler?_delete hmethod raw), houtcome]
        rfl
  | @comment raw rawId slug id hmethod hroute hslug hid =>
      rw [Application.run_respond app hroute
          (Application.handler?_deleteComment hmethod raw rawId),
        Articles.outcome_deleteComment_of_refusal hs hslug hid h]
      rfl

theorem status_own (hs : s.Sound) {app : Application} {target : Target} {p : Principal}
    (htarget : r.IsAimedAt target) (hp : IsFor app.shared m r p)
    (hown : s.HasTarget target p.userId) :
    (r.method = .delete → ((app.respond m r).run s).1.status = 204) ∧
      (r.method = .put →
        ((∀ changes, ¬ IsPayload articleChanges r changes) →
          ((app.respond m r).run s).1.status = 400) ∧
        ∀ changes, IsPayload articleChanges r changes →
          ((app.respond m r).run s).1.status ∈ [200, 400, 409]) := by
  generalize hn : p.userId = n at hown
  cases htarget with
  | @comment raw rawId slug id hmethod hroute hslug hid =>
      generalize hnumber : Text.signed? 64 id = number at hown
      cases hown with
      | comment ha hc hon =>
          refine ⟨fun _ => ?_, fun hput => absurd hput (by rw [hmethod]; decide)⟩
          rw [Application.run_respond app hroute
              (Application.handler?_deleteComment hmethod raw rawId),
            Articles.outcome_deleteComment_own hs hp ha hc hon hn.symm hslug hid hnumber]
          rfl
  | @article raw slug _ hroute hslug =>
      cases hown with
      | @article a ha =>
          refine ⟨fun hdelete => ?_, fun hput => ?_⟩
          · rw [Application.run_respond app hroute (Application.handler?_delete hdelete raw),
              Articles.outcome_delete_own hs hp ha hslug hn.symm]
            rfl
          rw [Application.run_respond app hroute (Application.handler?_update hput raw),
            Articles.outcome_update_own hs hp ha hslug hn.symm]
          refine ⟨fun hnone => ?_, fun changes hchanges => ?_⟩
          · obtain ⟨e, hrefused, hstatus⟩ := outcome_payload_of_none hnone
            rw [outcome_bind_of_error hrefused]
            exact hstatus
          · rw [outcome_bind_of_ok (outcome_payload hchanges s), outcome_bind, outcome_work]
            rcases Work.outcome_updateArticle_of_mem hs ha changes m.now with
              ⟨row, s', hwork⟩ | hwork | hwork <;> rw [hwork]
            · exact List.mem_cons_self
            · exact List.mem_cons_of_mem _ List.mem_cons_self
            · exact List.mem_cons_of_mem _ (List.mem_cons_of_mem _ List.mem_cons_self)

theorem Request.SameButBody.isAimedAt {r' : Request} (h : r.SameButBody r') {target : Target}
    (htarget : r.IsAimedAt target) : r'.IsAimedAt target := by
  cases htarget with
  | article hmethod hroute hslug =>
      exact .article (h.method.symm ▸ hmethod) (h.path.symm ▸ hroute) hslug
  | comment hmethod hroute hslug hid =>
      exact .comment (h.method.symm ▸ hmethod) (h.path.symm ▸ hroute) hslug hid

theorem Request.SameButBody.complete {r' : Request} (h : r.SameButBody r') (audience : Audience)
    (m : Moment) (response : Response) :
    Application.complete audience m r' response = Application.complete audience m r response := by
  have horigin := h.values "origin" (by decide) (by decide)
  have hid := h.values "x-request-id" (by decide) (by decide)
  simp only [Application.complete, Application.commonHeaders, Application.sharingHeaders,
    Application.visibleTo, h.method, horigin, hid]

end

/-- The answer to a change or a deletion is decided by the token, then by the path, then by what is
there, then by whose it is. Only the author's answer depends on the body. -/
theorem mutation_precedence {s : Store} (hs : Reachable s) (app : Application) (m : Moment)
    (r : Request) {target : Target} (htarget : r.IsAimedAt target) :
    let status := ((app.respond m r).run s).1.status
    ((∀ p, ¬ IsFor app.shared m r p) → status = 401) ∧
    (∀ p, IsFor app.shared m r p →
      ((∃ slug, target = .comment slug none) → status = 400) ∧
      ((∀ slug, target ≠ .comment slug none) → (∀ n, ¬ s.HasTarget target n) → status = 404) ∧
      (∀ n, s.HasTarget target n → n ≠ p.userId → status = 403) ∧
      (s.HasTarget target p.userId →
        (r.method = .delete → status = 204) ∧
        (r.method = .put →
          ((∀ changes, ¬ IsPayload articleChanges r changes) → status = 400) ∧
          ∀ changes, IsPayload articleChanges r changes → status ∈ [200, 400, 409]))) ∧
    ((∀ p, IsFor app.shared m r p → ¬ s.HasTarget target p.userId) →
      ((app.respond m r).run s).2 = s ∧
      ∀ r', r.SameButBody r' → (app.respond m r').run s = (app.respond m r).run s) := by
  intro status
  have hrefused : ∀ {x e}, Principal.ofHeaders app.shared.tokens (clock m)
      (r.values "authorization") = x → Refusal s x target e → status = e.status := by
    rintro x e rfl h
    exact congrArg (·.1.status) (h.run_respond hs.sound htarget)
  refine ⟨fun hnobody => ?nobody, fun p hp => ⟨?unreadable, fun hreadable hmissing => ?missing,
    fun n hn hforeign => ?foreign, status_own hs.sound htarget hp⟩, fun hothers => ?refused⟩
  case nobody =>
    rcases hx : Principal.ofHeaders app.shared.tokens (clock m) (r.values "authorization") with
      e | p
    · obtain ⟨message, rfl⟩ := Principal.ofHeaders_eq_error hx
      exact hrefused hx (.unauthorized message target)
    · exact absurd hx (hnobody p)
  case unreadable =>
    rintro ⟨slug, rfl⟩
    exact hrefused hp (.unreadable p slug)
  case missing =>
    obtain ⟨e, he, hstatus⟩ := exists_refusal_of_missing p hreadable hmissing
    exact (hrefused hp he).trans hstatus
  case foreign =>
    obtain ⟨e, he, hstatus⟩ := exists_refusal_of_foreign hn hforeign
    exact (hrefused hp he).trans hstatus
  case refused =>
    rcases refused_or_own s app.shared.tokens (clock m) (r.values "authorization") target with
      ⟨e, he⟩ | ⟨p, hp, hown⟩
    case inr => exact absurd hown (hothers p hp)
    have hrun := he.run_respond hs.sound htarget
    refine ⟨congrArg Prod.snd hrun, fun r' hsame => ?_⟩
    have he' : Refusal s (Principal.ofHeaders app.shared.tokens (clock m)
        (r'.values "authorization")) target e := by
      rwa [hsame.values "authorization" (by decide) (by decide)]
    rw [he'.run_respond hs.sound (hsame.isAimedAt htarget), hrun, hsame.complete]

open Sample in
theorem mutation_precedence_gone :
    let s := store [article 1 "hello" "Hello"] 1
    Reachable s ∧ (rename "gone" "New").IsAimedAt (.article "gone") ∧
      ((app.respond moment (rename "gone" "New")).run s).1.status = 404 ∧
      ∀ r, (rename "gone" "New").SameButBody r →
        (app.respond moment r).run s = (app.respond moment (rename "gone" "New")).run s := by
  intro s
  have hs : Reachable s := served_published.reachable
  have haimed : (rename "gone" "New").IsAimedAt (.article "gone") :=
    have hroute : Route.ofPath? (rename "gone" "New").path = some (.article "gone") := by decide
    .article (.inl rfl) hroute (by decide)
  have hp : IsFor app.shared moment (rename "gone" "New") ⟨1, "alice", token⟩ := ofHeaders_token
  have hgone : ∀ n, ¬ s.HasTarget (.article "gone") n := by
    intro n hn
    obtain ⟨a, ha, hslug, -⟩ := Store.hasTarget_article_iff.mp hn
    obtain rfl := List.mem_singleton.mp ha
    exact absurd hslug (by decide)
  obtain ⟨-, hrows, hsame⟩ := mutation_precedence hs app moment (rename "gone" "New") haimed
  obtain ⟨-, hmissing, -, -⟩ := hrows _ hp
  exact ⟨hs, haimed, hmissing nofun hgone, (hsame fun _ _ => hgone _).2⟩

end Weblog
