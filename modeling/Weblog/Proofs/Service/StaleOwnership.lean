import Weblog.Proofs.Service.Confinement

namespace Weblog

open Session

/-- The article with the number is the user's before and after, and nothing else is changed. -/
def RevisesOwn (u id : Int) (s s' : Store) : Prop :=
  ∃ old ∈ s.articles, old.id = id ∧ old.authorId = u ∧
    ∃ new : Article, new.id = id ∧ new.authorId = u ∧
      s' = { s with articles := s.articles.map fun a => if a = old then new else a }

/-- The article with the number is the user's, and it goes, with the comments on it. -/
def RetractsOwn (u id : Int) (s s' : Store) : Prop :=
  ∃ old ∈ s.articles, old.id = id ∧ old.authorId = u ∧
    s' = { s with
      articles := s.articles.filter (· ≠ old)
      comments := s.comments.filter (·.articleId != id) }

/-- The comment with the number is the user's, and it goes. -/
def WithdrawsOwn (u id : Int) (s s' : Store) : Prop :=
  ∃ old ∈ s.comments, old.id = id ∧ old.authorId = u ∧
    s' = { s with comments := s.comments.filter (· ≠ old) }

/-- The work is refused and changes nothing, or it succeeds and what it changes is so. -/
def RefusedOr (w : Work α) (s : Store) (changed : Store → Prop) : Prop :=
  (∃ e, outcome w s = (.error e, s)) ∨ ∃ a s', outcome w s = (.ok a, s') ∧ changed s'

/-- If there is a row with the number, it is the user's. -/
def IsOwn (authorId key : α → Int) (rows : List α) (u id : Int) : Prop :=
  ∀ a ∈ rows, key a = id → authorId a = u

section

variable {s : Store} {u id : Int}

theorem revisesOwn_withRevision (hs : s.Sound) {a : Article} (ha : a ∈ s.articles)
    (hown : a.authorId = u) (slug : String) (changes : ArticleChanges) (now : Instant) :
    RevisesOwn u a.id s (s.withRevision a.id slug changes now) := by
  refine ⟨a, ha, rfl, hown, Store.changeArticle a slug changes now, rfl, hown, ?_⟩
  rw [Store.withRevision, map_key_eq hs.articleIds ha]

theorem revisesOwn_self {a : Article} (ha : a ∈ s.articles) (hown : a.authorId = u) :
    RevisesOwn u a.id s s := by
  have hsame : (s.articles.map fun b => if b = a then a else b) = s.articles := by
    refine (List.map_congr_left fun b _ => ?_).trans s.articles.map_id
    by_cases hba : b = a <;> simp [hba]
  refine ⟨a, ha, rfl, hown, a, rfl, hown, ?_⟩
  rw [hsame]

theorem refusedOr_updateArticle (hs : s.Sound) {current : Article}
    (hown : IsOwn Article.authorId Article.id s.articles u current.id) (changes : ArticleChanges)
    (now : Instant) :
    RefusedOr (Work.updateArticle current changes now) s (RevisesOwn u current.id s) := by
  rcases Work.outcome_updateArticle_cases hs current changes now with
    hrefused | ⟨a, ha, hid, v, -, -, ⟨-, houtcome⟩ | ⟨-, slug, -, houtcome⟩⟩
  · exact .inl hrefused
  · rw [← hid]
    exact .inr ⟨_, _, houtcome, revisesOwn_self ha (hown a ha hid)⟩
  · rw [← hid]
    exact .inr ⟨_, _, houtcome, revisesOwn_withRevision hs ha (hown a ha hid) slug changes now⟩

theorem after_updateArticle (hs : s.Sound)
    (hown : IsOwn Article.authorId Article.id s.articles u id) (slug : String)
    (changes : ArticleChanges) (now : Instant) :
    (Statement.updateArticle id slug changes now).after s = s ∨
      RevisesOwn u id s ((Statement.updateArticle id slug changes now).after s) := by
  cases hexec : (Statement.updateArticle id slug changes now).exec s with
  | error e => exact .inl (Statement.after_of_exec_error hexec)
  | ok written =>
      obtain ⟨isThere, s'⟩ := written
      rw [Statement.after_of_exec_ok hexec]
      rcases Store.updateArticle_eq_ok hexec with ⟨-, -, rfl⟩ | ⟨⟨a, ha, rfl⟩, -, -, rfl⟩
      · exact .inl rfl
      · exact .inr (revisesOwn_withRevision hs ha (hown a ha rfl) slug changes now)

theorem refusedOr_deleteArticle (hs : s.Sound)
    (hown : IsOwn Article.authorId Article.id s.articles u id) :
    RefusedOr (Work.deleteArticle id) s (RetractsOwn u id s) := by
  by_cases hthere : ∃ a ∈ s.articles, a.id = id
  · obtain ⟨a, ha, rfl⟩ := hthere
    refine .inr ⟨_, _, Work.outcome_deleteArticle_of_mem ha, a, ha, rfl, hown a ha rfl, ?_⟩
    rw [Store.deleteArticle, filter_key_ne hs.articleIds ha]
  · have hmissing : ∀ a ∈ s.articles, a.id ≠ id := fun a ha hid => hthere ⟨a, ha, hid⟩
    exact .inl ⟨_, Work.outcome_deleteArticle_of_missing hs hmissing⟩

theorem refusedOr_deleteComment (hs : s.Sound)
    (hown : IsOwn Comment.authorId Comment.id s.comments u id) :
    RefusedOr (Work.deleteComment id) s (WithdrawsOwn u id s) := by
  by_cases hthere : ∃ c ∈ s.comments, c.id = id
  · obtain ⟨c, hc, rfl⟩ := hthere
    refine .inr ⟨_, _, Work.outcome_deleteComment_of_mem hc, c, hc, rfl, hown c hc rfl, ?_⟩
    rw [Store.deleteComment, filter_key_ne hs.commentIds hc]
  · have hmissing : ∀ c ∈ s.comments, c.id ≠ id := fun c hc hid => hthere ⟨c, hc, hid⟩
    exact .inl ⟨_, Work.outcome_deleteComment_of_missing hmissing⟩

end

namespace Traffic

variable {t t' : Traffic} {u : Int}

/-- An article that was the user's is the user's still, or is gone. -/
theorem Steps.isOwn_article (h : Steps t t') (ht : t.store.Sound) {a : Article}
    (ha : a ∈ t.store.articles) (hown : a.authorId = u) :
    IsOwn Article.authorId Article.id t'.store.articles u a.id := by
  intro b hb hid
  rw [(h.evolves.article_eq ht ha hb hid).1, hown]

theorem Steps.isOwn_comment (h : Steps t t') (ht : t.store.Sound) {c : Comment}
    (hc : c ∈ t.store.comments) (hown : c.authorId = u) :
    IsOwn Comment.authorId Comment.id t'.store.comments u c.id := by
  intro b hb hid
  have hold : b ∈ t.store.comments := h.evolves.comments b hb (hid ▸ ht.commentIds_le c hc)
  rw [eq_of_key_eq ht.commentIds hold hc hid, hown]

end Traffic

/-- Let a row that was read be found to be the user's. Whatever has become of the store when the
row is written to, the write is refused and changes nothing, or it meets a row that is the user's,
and changes nothing but that row and, where an article is deleted, the comments on it. A change to
an article may also be interrupted before its last statement, the one that writes. -/
theorem stale_ownership_sound {t t' : Traffic} (ht : t.Reachable) (h : t.Steps t') (u : Int) :
    (∀ row r, (∀ a ∈ row, a ∈ t.store.authoredArticles) →
      requireOwner .article (·.thing.authorId) row u = .ok r →
        (∀ changes now, RefusedOr (Work.updateArticle r.thing changes now) t'.store
          (RevisesOwn u r.thing.id t'.store)) ∧
        (∀ slug changes now,
          let s' := (Statement.updateArticle r.thing.id slug changes now).after t'.store
          s' = t'.store ∨ RevisesOwn u r.thing.id t'.store s') ∧
        RefusedOr (Work.deleteArticle r.thing.id) t'.store
          (RetractsOwn u r.thing.id t'.store)) ∧
    ∀ row r, (∀ c ∈ row, c ∈ t.store.comments) →
      requireOwner .comment Comment.authorId row u = .ok r →
        RefusedOr (Work.deleteComment r.id) t'.store (WithdrawsOwn u r.id t'.store) := by
  have hsound := (ht.steps h).sound
  -- what the check has found still holds, as no number is given to another row
  refine ⟨fun row r hread hcheck => ?_, fun row r hread hcheck => ?_⟩
  · obtain ⟨hrow, hauthor⟩ := requireOwner_eq_ok hcheck
    have hmem := (Store.of_mem_authoredArticles (hread r hrow)).1
    have hown := h.isOwn_article ht.sound hmem hauthor
    exact ⟨refusedOr_updateArticle hsound hown, after_updateArticle hsound hown,
      refusedOr_deleteArticle hsound hown⟩
  · obtain ⟨hrow, hauthor⟩ := requireOwner_eq_ok hcheck
    exact refusedOr_deleteComment hsound (h.isOwn_comment ht.sound (hread r hrow) hauthor)

namespace Sample

def remark : Comment := ⟨1, "c", 1, 1, moment.now, moment.now⟩

/-- The first article of `alice`, with her comment on it. -/
def remarked (slug title : String) : Store :=
  { store [article 1 slug title] 1 with comments := [remark], lastComment := 1 }

def comment (slug text : String) : Request :=
  ⟨.post, "/api/articles/" ++ slug ++ "/comments", "", asAlice, body "comment" [("body", text)]⟩

theorem store_comment : ((app.respond moment (comment "hello" "c")).run
    (store [article 1 "hello" "Hello"] 1)).2 = remarked "hello" "Hello" := by
  have hroute : Route.ofPath? (comment "hello" "c").path = some (.comments "hello") := by decide
  rw [store_asAlice hroute (by decide) rfl rfl]
  decide +kernel

theorem store_rename : ((app.respond moment (rename "hello" "New")).run
    (remarked "hello" "Hello")).2 = remarked "new" "New" := by
  rw [store_asAlice route_rename (by decide) rfl rfl]
  decide +kernel

theorem served_remarked : Served (remarked "hello" "Hello") :=
  store_comment ▸ served_published.respond app moment (comment "hello" "c")

theorem steps_remarked_renamed :
    Traffic.Steps ⟨remarked "hello" "Hello", []⟩ ⟨remarked "new" "New", []⟩ :=
  store_rename ▸ Traffic.steps_respond _ app moment (rename "hello" "New")

end Sample

open Sample in
/-- `alice` reads her article and her comment, and another request of hers gives the article a new
title before the first one goes on. -/
theorem stale_ownership_sound_renamed :
    (RefusedOr (Work.updateArticle (article 1 "hello" "Hello") ⟨none, some "x", none⟩ moment.now)
        (remarked "new" "New") (RevisesOwn 1 1 (remarked "new" "New")) ∧
      RefusedOr (Work.deleteArticle 1) (remarked "new" "New")
        (RetractsOwn 1 1 (remarked "new" "New"))) ∧
      RefusedOr (Work.deleteComment 1) (remarked "new" "New")
        (WithdrawsOwn 1 1 (remarked "new" "New")) := by
  obtain ⟨harticle, hcomment⟩ :=
    stale_ownership_sound served_remarked.traffic steps_remarked_renamed alice.id
  have hown := harticle (some ⟨article 1 "hello" "Hello", alice.profile⟩) _ (by decide) rfl
  exact ⟨⟨hown.1 _ _, hown.2.2⟩, hcomment (some remark) _ (by decide) rfl⟩

end Weblog
