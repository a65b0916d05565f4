import Weblog.Proofs.Store.Journal

namespace Weblog

open Session

/-- An operation on the store, with its arguments. -/
inductive Operation where
  | createUser (username email passwordHash : String)
  | updateUser (id : Int) (changes : UserChanges)
  | createArticle (authorId : Int) (draft : ArticleDraft)
  /-- Changes the article with the number of `current`, a row that has been read before. -/
  | updateArticle (current : Article) (changes : ArticleChanges)
  | deleteArticle (id : Int)
  | createComment (articleId authorId : Int) (body : String)
  | deleteComment (id : Int)

/-- The store after an operation that is carried out alone, be it refused or not. -/
def Operation.after (o : Operation) (now : Instant) (s : Store) : Store :=
  match o with
  | createUser username email passwordHash =>
    (outcome (Work.createUser username email passwordHash now) s).2
  | updateUser id changes => (outcome (Work.updateUser id changes now) s).2
  | createArticle authorId draft => (outcome (Work.createArticle authorId draft now) s).2
  | updateArticle current changes => (outcome (Work.updateArticle current changes now) s).2
  | deleteArticle id => (outcome (Work.deleteArticle id) s).2
  | createComment articleId authorId body =>
    (outcome (Work.createComment articleId authorId body now) s).2
  | deleteComment id => (outcome (Work.deleteComment id) s).2

/-- The row of an article that an operation is given. -/
def Operation.row? : Operation → Option Article
  | updateArticle current _ => some current
  | _ => none

/-- The stores that operations leave behind one after another, the last one first, beginning with
a new store. A row that an operation is given has been in the table at some time. -/
inductive Store.History : List Store → Prop
  | start : History [.empty]
  | perform {s : Store} {past : List Store} (h : History (s :: past)) (o : Operation)
      (now : Instant) (hrow : ∀ r ∈ o.row?, ∃ t ∈ s :: past, r ∈ t.articles) :
      History (o.after now s :: s :: past)

/-- The slug can be chosen for the title at that time. -/
def Slug.IsCandidate (title : String) (now : Instant) (slug : String) : Prop :=
  ofTitle title ≠ "" ∧ slug ∈ candidates (ofTitle title) now.seconds.toNat

/-- Where the statement writes a slug, it is one of `K`. -/
def Statement.WritesSlug (K : String → Prop) : Statement → Prop
  | insertArticle slug .. => K slug
  | updateArticle _ slug .. => K slug
  | _ => True

theorem Statement.writesSlug_of_isRead {K : String → Prop} {q : Statement} (hq : q.isRead = true) :
    q.WritesSlug K := by
  cases q <;> trivial

theorem Statement.forall_slug_after {K : String → Prop} {q : Statement} {s : Store}
    (hq : q.WritesSlug K) (hs : ∀ a ∈ s.articles, K a.slug) :
    ∀ a ∈ (q.after s).articles, K a.slug := by
  intro a ha
  cases Turn.writes ⟨q, s⟩ with
  | nothing hinserted hdeleted hafter => exact hs a (hafter ▸ ha)
  | adds hquery hinserted hdeleted hfree hafter =>
      obtain rfl := hquery
      rw [show Statement.after _ s = _ from hafter] at ha
      rcases List.mem_append.mp ha with ha | ha
      · exact hs a ha
      · rw [List.mem_singleton.mp ha]
        exact hq
  | revises hquery hinserted hdeleted hafter =>
      obtain rfl := hquery
      rw [show Statement.after _ s = _ from hafter] at ha
      obtain ⟨b, hb, rfl⟩ := List.mem_map.mp ha
      split
      · exact hq
      · exact hs b hb
  | removes hmem hquery hinserted hdeleted hafter =>
      rw [show q.after s = _ from hafter] at ha
      exact hs a (List.mem_of_mem_filter ha)

namespace Work

variable {P : Statement → Prop} (hreads : ∀ q : Statement, q.isRead = true → P q)

include hreads

theorem asks_of_reads {w : Work α} (hw : Reads w) : Asks P (fun _ => True) w :=
  Asks.imp hw hreads

theorem asks_allocateSlug (title : String) (except : Option Int) (now : Instant) :
    Asks P (Slug.IsCandidate title now) (allocateSlug title except now) := by
  by_cases htitle : Slug.ofTitle title = ""
  · rw [allocateSlug, if_pos (by simpa using htitle)]
    exact (asks_throw (Q := fun _ => False) _).bind fun _ h => h.elim
  rw [allocateSlug, if_neg (by simpa using htitle)]
  refine (asks_ask (hreads _ rfl)).bind fun taken _ => asks_pure ⟨htitle, ?_⟩
  exact Slug.firstFree_mem_candidates htitle taken _

theorem asks_createArticle {authorId : Int} {draft : ArticleDraft} {now : Instant}
    (hinsert : ∀ slug, Slug.IsCandidate draft.title now slug →
      P (.insertArticle slug draft authorId now)) :
    Asks P (fun _ => True) (createArticle authorId draft now) := by
  refine (asks_allocateSlug hreads _ _ _).bind fun slug hslug => ?_
  refine (asks_attempt (hinsert slug hslug)).bind fun r _ => ?_
  cases r with
  | error e => exact asks_throw _
  | ok id => exact asks_of_reads hreads (reads_article id)

theorem asks_writeRevision {id : Int} {slug : String} {changes : ArticleChanges} {now : Instant}
    (hupdate : P (.updateArticle id slug changes now)) :
    Asks P (fun _ => True) (writeRevision id slug changes now) := by
  refine (asks_attempt hupdate).bind fun r _ => ?_
  rcases r with e | _ | _
  · exact asks_throw _
  · exact asks_throw _
  · exact asks_of_reads hreads (reads_article id)

theorem asks_updateArticle {current : Article} {changes : ArticleChanges} {now : Instant}
    (hupdate : ∀ slug, slug = current.slug ∨ (∃ title, Slug.IsCandidate title now slug) →
      P (.updateArticle current.id slug changes now)) :
    Asks P (fun _ => True) (updateArticle current changes now) := by
  rcases updateArticle_forms current changes now with
    ⟨-, hform⟩ | ⟨-, -, hform⟩ | ⟨title, -, hform⟩ <;> rw [hform]
  · exact asks_of_reads hreads (reads_article current.id)
  · exact asks_writeRevision hreads (hupdate _ (.inl rfl))
  · refine (asks_allocateSlug hreads title _ _).bind fun slug hslug => ?_
    exact asks_writeRevision hreads (hupdate slug (.inr ⟨title, hslug⟩))

theorem asks_createUser {username email passwordHash : String} {now : Instant}
    (hinsert : P (.insertUser username email passwordHash now)) :
    Asks P (fun _ => True) (createUser username email passwordHash now) := by
  refine (asks_attempt hinsert).bind fun r _ => ?_
  rcases r with (_ | _ | _) | u
  · exact asks_throw _
  · exact asks_of_reads hreads (reads_conflict _ _)
  · exact asks_throw _
  · exact asks_pure trivial

theorem asks_updateUser {id : Int} {changes : UserChanges} {now : Instant}
    (hupdate : P (.updateUser id changes now)) :
    Asks P (fun _ => True) (updateUser id changes now) := by
  refine (asks_attempt hupdate).bind fun r _ => ?_
  rcases r with (_ | _ | _) | row
  · exact asks_throw _
  · exact asks_of_reads hreads (reads_conflict _ _)
  · exact asks_throw _
  · exact asks_of_reads hreads (reads_found row)

omit hreads in
theorem asks_deleteArticle {id : Int} (hdelete : P (.deleteArticle id)) :
    Asks P (fun _ => True) (deleteArticle id) := by
  refine (asks_ask hdelete).bind fun wasThere _ => ?_
  cases wasThere with
  | true => exact asks_pure trivial
  | false => exact asks_throw _

theorem asks_createComment {articleId authorId : Int} {body : String} {now : Instant}
    (hinsert : P (.insertComment articleId authorId body now)) :
    Asks P (fun _ => True) (createComment articleId authorId body now) := by
  refine (asks_ask hinsert).bind fun id _ => ?_
  exact (asks_ask (hreads (.authoredComment id) rfl)).bind fun row _ =>
    asks_of_reads hreads (reads_found row)

omit hreads in
theorem asks_deleteComment {id : Int} (hdelete : P (.deleteComment id)) :
    Asks P (fun _ => True) (deleteComment id) := by
  refine (asks_ask hdelete).bind fun wasThere _ => ?_
  cases wasThere with
  | true => exact asks_pure trivial
  | false => exact asks_throw _

end Work

/-- What holds of all slugs in the table, of all candidates and of the slug of a row that is given
to an operation, holds of all slugs after the operation. -/
theorem Operation.forall_slug_after {K : String → Prop} {s : Store} (o : Operation) (now : Instant)
    (hs : ∀ a ∈ s.articles, K a.slug) (hrow : ∀ r ∈ o.row?, K r.slug)
    (hnew : ∀ title slug, Slug.IsCandidate title now slug → K slug) :
    ∀ a ∈ (o.after now s).articles, K a.slug := by
  have hkept : ∀ {α : Type} {w : Work α}, Asks (·.WritesSlug K) (fun _ => True) w →
      ∀ a ∈ (outcome w s).2.articles, K a.slug :=
    fun hw => hw.outcome (I := fun s => ∀ a ∈ s.articles, K a.slug)
      (fun _ _ hq hs => Statement.forall_slug_after hq hs) hs
  have hreads : ∀ q : Statement, q.isRead = true → q.WritesSlug K :=
    fun _ => Statement.writesSlug_of_isRead
  cases o <;> rw [Operation.after]
  case createUser => exact hkept (Work.asks_createUser hreads trivial)
  case updateUser => exact hkept (Work.asks_updateUser hreads trivial)
  case createArticle authorId draft =>
    exact hkept (Work.asks_createArticle hreads (hnew draft.title))
  case updateArticle current changes =>
    refine hkept (Work.asks_updateArticle hreads ?_)
    rintro slug (rfl | ⟨title, hslug⟩)
    · exact hrow current rfl
    · exact hnew title slug hslug
  case deleteArticle => exact hkept (Work.asks_deleteArticle trivial)
  case createComment => exact hkept (Work.asks_createComment hreads trivial)
  case deleteComment => exact hkept (Work.asks_deleteComment trivial)

theorem Store.History.isCandidate {stores : List Store} (h : History stores) :
    ∀ s ∈ stores, ∀ a ∈ s.articles, ∃ title now, Slug.IsCandidate title now a.slug := by
  induction h with
  | start =>
      intro s hs a ha
      rw [List.mem_singleton.mp hs] at ha
      exact nomatch ha
  | @perform s past h o now hrow ih =>
      intro t ht
      rcases List.mem_cons.mp ht with rfl | ht
      · refine o.forall_slug_after now
          (K := fun slug => ∃ title now, Slug.IsCandidate title now slug) (ih s (by simp)) ?_
          fun title slug hslug => ⟨title, now, hslug⟩
        intro r hr
        obtain ⟨t, ht, hrt⟩ := hrow r hr
        exact ih t ht r hrt
      · exact ih t ht

end Weblog
