import Weblog.Proofs.Store.Operation
import Weblog.Proofs.Text.Case

namespace Weblog

open Session Settings Text

theorem Session.run_keeps {I : Store → Prop} (hI : ∀ (q : Statement) s, I s → I (q.after s))
    (w : Session α) {s : Store} (hs : I s) : I (w.run s).2 := by
  induction w generalizing s with
  | done a => exact hs
  | query q next ih =>
      rw [run_query]
      exact ih _ (hI q s hs)

namespace Operation

variable {s : Store}

theorem keeps {I : Store → Prop} (hI : ∀ (q : Statement) s, I s → I (q.after s)) (o : Operation)
    (now : Instant) (hs : I s) : I (o.after now s) := by
  cases o <;> exact run_keeps hI _ hs

theorem sound_after (o : Operation) (now : Instant) (hs : s.Sound) : (o.after now s).Sound :=
  o.keeps (fun q _ h => h.after q) now hs

theorem evolves_after (o : Operation) (now : Instant) (s : Store) :
    s.Evolves (o.after now s) :=
  o.keeps (fun q t h => h.trans (Store.evolves_after q t)) now (.refl s)

/-- The number of the article that the operation answers with as a new one. -/
def newArticle? (o : Operation) (now : Instant) (s : Store) : Option Int :=
  match o with
  | createArticle authorId draft =>
    (outcome (Work.createArticle authorId draft now) s).1.toOption.map (·.thing.id)
  | _ => none

/-- The number of the comment that the operation answers with as a new one. -/
def newComment? (o : Operation) (now : Instant) (s : Store) : Option Int :=
  match o with
  | createComment articleId authorId body =>
    (outcome (Work.createComment articleId authorId body now) s).1.toOption.map (·.thing.id)
  | _ => none

end Operation

/-- A counter of rows before and after an operation that may give a number: it gives the next one,
and counts it. -/
structure Counts (given : Option Int) (last last' : Int) : Prop where
  eq_next : ∀ id ∈ given, id = last + 1
  last_eq : last' = given.getD last

theorem counts_none {last last' : Int} (h : last' = last) : Counts none last last' :=
  ⟨nofun, h⟩

theorem counts_next (last : Int) : Counts (some (last + 1)) last (last + 1) :=
  ⟨fun _ h => (Option.some.inj h).symm, rfl⟩

theorem Counts.eq_some_iff {given : Option Int} {last last' : Int} (h : Counts given last last')
    {id : Int} : given = some id ↔ last < id ∧ id ≤ last' := by
  cases given with
  | none =>
      obtain rfl : last' = last := h.last_eq
      constructor
      · exact nofun
      · rintro ⟨hgt, hle⟩
        omega
  | some n =>
      obtain rfl : last' = n := h.last_eq
      have hn : last' = last + 1 := h.eq_next last' rfl
      rw [Option.some_inj]
      omega

namespace Operation

variable {s : Store}

theorem counters_createUser (username email passwordHash : String) (now : Instant) (s : Store) :
    ((createUser username email passwordHash).after now s).lastArticle = s.lastArticle ∧
      ((createUser username email passwordHash).after now s).lastComment = s.lastComment := by
  rw [Operation.after, Work.outcome_createUser]
  cases h : s.insertUser username email passwordHash now with
  | ok written =>
      obtain ⟨u, s'⟩ := written
      obtain ⟨-, -, rfl⟩ := Store.insertUser_eq_ok h
      exact ⟨rfl, rfl⟩
  | error e => cases e <;> exact ⟨rfl, rfl⟩

theorem counters_updateUser (id : Int) (changes : UserChanges) (now : Instant) (s : Store) :
    ((updateUser id changes).after now s).lastArticle = s.lastArticle ∧
      ((updateUser id changes).after now s).lastComment = s.lastComment := by
  rw [Operation.after, Work.outcome_updateUser]
  cases h : s.updateUser id changes now with
  | ok written =>
      obtain ⟨row, s'⟩ := written
      obtain ⟨users, rfl⟩ := Store.updateUser_others h
      cases row <;> exact ⟨rfl, rfl⟩
  | error e => cases e <;> exact ⟨rfl, rfl⟩

theorem counters_updateArticle (hs : s.Sound) (current : Article) (changes : ArticleChanges)
    (now : Instant) :
    ((updateArticle current changes).after now s).lastArticle = s.lastArticle ∧
      ((updateArticle current changes).after now s).lastComment = s.lastComment := by
  rw [Operation.after]
  rcases Work.outcome_updateArticle_cases hs current changes now with
    ⟨e, h⟩ | ⟨a, -, -, u, -, -, ⟨-, h⟩ | ⟨-, slug, -, h⟩⟩
  · rw [h]
    exact ⟨rfl, rfl⟩
  · rw [h]
    exact ⟨rfl, rfl⟩
  · rw [h]
    exact ⟨rfl, rfl⟩

theorem counts_createArticle (hs : s.Sound) (authorId : Int) (draft : ArticleDraft)
    (now : Instant) :
    Counts ((createArticle authorId draft).newArticle? now s) s.lastArticle
        ((createArticle authorId draft).after now s).lastArticle ∧
      ((createArticle authorId draft).after now s).lastComment = s.lastComment := by
  rw [newArticle?, Operation.after]
  by_cases htitle : Slug.ofTitle draft.title = ""
  · rw [Work.outcome_createArticle_of_no_slug htitle]
    exact ⟨counts_none rfl, rfl⟩
  by_cases hauthor : ∃ u ∈ s.users, u.id = authorId
  · obtain ⟨u, hu, rfl⟩ := hauthor
    rw [Work.outcome_createArticle hs hu htitle]
    cases Slug.choice? (Slug.ofTitle draft.title) now.seconds.toNat (s.slugsBut none) with
    | none => exact ⟨counts_none rfl, rfl⟩
    | some slug => exact ⟨counts_next _, rfl⟩
  · rw [Work.outcome_createArticle_of_no_author hauthor]
    exact ⟨counts_none rfl, rfl⟩

theorem counts_createComment (hs : s.Sound) (articleId authorId : Int) (body : String)
    (now : Instant) :
    Counts ((createComment articleId authorId body).newComment? now s) s.lastComment
        ((createComment articleId authorId body).after now s).lastComment ∧
      ((createComment articleId authorId body).after now s).lastArticle = s.lastArticle := by
  rw [newComment?, Operation.after]
  by_cases hthere : (∃ u ∈ s.users, u.id = authorId) ∧ ∃ a ∈ s.articles, a.id = articleId
  · obtain ⟨⟨u, hu, rfl⟩, a, ha, rfl⟩ := hthere
    rw [Work.outcome_createComment hs ha hu]
    exact ⟨counts_next _, rfl⟩
  · rw [Work.outcome_createComment_of_missing hthere]
    exact ⟨counts_none rfl, rfl⟩

/-- Only the operations that make articles and comments give such numbers, each the next one. -/
theorem counts (hs : s.Sound) (o : Operation) (now : Instant) :
    Counts (o.newArticle? now s) s.lastArticle (o.after now s).lastArticle ∧
      Counts (o.newComment? now s) s.lastComment (o.after now s).lastComment := by
  cases o with
  | createUser username email passwordHash =>
      obtain ⟨harticle, hcomment⟩ := counters_createUser username email passwordHash now s
      exact ⟨counts_none harticle, counts_none hcomment⟩
  | updateUser id changes =>
      obtain ⟨harticle, hcomment⟩ := counters_updateUser id changes now s
      exact ⟨counts_none harticle, counts_none hcomment⟩
  | createArticle authorId draft =>
      obtain ⟨harticle, hcomment⟩ := counts_createArticle hs authorId draft now
      exact ⟨harticle, counts_none hcomment⟩
  | updateArticle current changes =>
      obtain ⟨harticle, hcomment⟩ := counters_updateArticle hs current changes now
      exact ⟨counts_none harticle, counts_none hcomment⟩
  | deleteArticle id =>
      rw [Operation.after, Work.outcome_deleteArticle]
      exact ⟨counts_none rfl, counts_none rfl⟩
  | createComment articleId authorId body =>
      obtain ⟨hcomment, harticle⟩ := counts_createComment hs articleId authorId body now
      exact ⟨counts_none harticle, hcomment⟩
  | deleteComment id =>
      rw [Operation.after, Work.outcome_deleteComment]
      exact ⟨counts_none rfl, counts_none rfl⟩

end Operation

namespace Store

/-- The store after operations, each at its own time. -/
def perform (s : Store) : List (Operation × Instant) → Store
  | [] => s
  | (o, now) :: rest => (o.after now s).perform rest

/-- The numbers that operations give, in order. -/
def numbers (new? : Operation → Instant → Store → Option Int) (s : Store) :
    List (Operation × Instant) → List Int
  | [] => []
  | (o, now) :: rest => (new? o now s).toList ++ numbers new? (o.after now s) rest

variable {s : Store}

theorem perform_append (s : Store) (ops later : List (Operation × Instant)) :
    s.perform (ops ++ later) = (s.perform ops).perform later := by
  induction ops generalizing s with
  | nil => rfl
  | cons op ops ih => exact ih _

theorem Sound.perform (hs : s.Sound) (ops : List (Operation × Instant)) : (s.perform ops).Sound := by
  induction ops generalizing s with
  | nil => exact hs
  | cons op ops ih => exact ih (op.1.sound_after op.2 hs)

theorem evolves_perform (s : Store) (ops : List (Operation × Instant)) :
    s.Evolves (s.perform ops) := by
  induction ops generalizing s with
  | nil => exact .refl s
  | cons op ops ih => exact (op.1.evolves_after op.2 s).trans (ih _)

/-- The numbers of one kind, and where the store has the last of them. -/
structure Numbering (new? : Operation → Instant → Store → Option Int) (last : Store → Int) :
    Prop where
  counts : ∀ {s : Store}, s.Sound → ∀ o now, Counts (new? o now s) (last s) (last (o.after now s))
  last_le : ∀ {s s' : Store}, s.Evolves s' → last s ≤ last s'

theorem numbering_articles : Numbering Operation.newArticle? Store.lastArticle where
  counts hs o now := (Operation.counts hs o now).1
  last_le h := h.lastArticle_le

theorem numbering_comments : Numbering Operation.newComment? Store.lastComment where
  counts hs o now := (Operation.counts hs o now).2
  last_le h := h.lastComment_le

namespace Numbering

variable {new? : Operation → Instant → Store → Option Int} {last : Store → Int}

theorem mem_iff (h : Numbering new? last) (hs : s.Sound) (ops : List (Operation × Instant))
    {id : Int} : id ∈ s.numbers new? ops ↔ last s < id ∧ id ≤ last (s.perform ops) := by
  induction ops generalizing s with
  | nil =>
      constructor
      · exact nofun
      · rintro ⟨hgt, hle⟩
        exact absurd hle (Int.not_le.mpr hgt)
  | cons op ops ih =>
      have hfirst := h.last_le (op.1.evolves_after op.2 s)
      have hrest := h.last_le (evolves_perform (op.1.after op.2 s) ops)
      rw [numbers, List.mem_append, Option.mem_toList, (h.counts hs op.1 op.2).eq_some_iff,
        ih (op.1.sound_after op.2 hs), Store.perform]
      omega

theorem nodup (h : Numbering new? last) (hs : s.Sound) (ops : List (Operation × Instant)) :
    (s.numbers new? ops).Nodup := by
  induction ops generalizing s with
  | nil => exact .nil
  | cons op ops ih =>
      have hs' := op.1.sound_after op.2 hs
      rw [numbers, List.nodup_append]
      refine ⟨?_, ih hs', ?_⟩
      · cases new? op.1 op.2 s with
        | none => exact .nil
        | some id => exact List.nodup_singleton id
      · intro first hfirst second hsecond
        have hle := ((h.counts hs op.1 op.2).eq_some_iff.mp (Option.mem_toList.mp hfirst)).2
        have hgt := ((h.mem_iff hs' ops).mp hsecond).1
        exact Int.ne_of_lt (Int.lt_of_le_of_lt hle hgt)

end Numbering

/-- Operations on a new store: whatever `ops` are, the tables are sound after them and a deletion
takes away just what it should; and whatever comes `later`, no number is given a second time. -/
structure Intact (ops later : List (Operation × Instant)) : Prop where
  sound : (empty.perform ops).Sound
  emails : (empty.perform ops).users.Pairwise fun u v => eqIgnoringCase u.email v.email = false
  articleNumbers : (empty.numbers Operation.newArticle? (ops ++ later)).Nodup
  commentNumbers : (empty.numbers Operation.newComment? (ops ++ later)).Nodup
  articles_numbered : ∀ a ∈ (empty.perform ops).articles,
    a.id ∈ empty.numbers Operation.newArticle? ops
  comments_numbered : ∀ c ∈ (empty.perform ops).comments,
    c.id ∈ empty.numbers Operation.newComment? ops
  articles_kept : ∀ b ∈ (empty.perform (ops ++ later)).articles,
    b.id ∈ empty.numbers Operation.newArticle? ops →
      ∃ a ∈ (empty.perform ops).articles,
        a.id = b.id ∧ a.authorId = b.authorId ∧ a.createdAt = b.createdAt
  comments_kept : ∀ c ∈ (empty.perform (ops ++ later)).comments,
    c.id ∈ empty.numbers Operation.newComment? ops → c ∈ (empty.perform ops).comments
  deleteArticle : ∀ a ∈ (empty.perform ops).articles,
    outcome (Work.deleteArticle a.id) (empty.perform ops) =
      (.ok (), { empty.perform ops with
        articles := (empty.perform ops).articles.filter (· ≠ a)
        comments := (empty.perform ops).comments.filter (·.articleId ≠ a.id) })
  deleteArticle_missing : ∀ id, (∀ a ∈ (empty.perform ops).articles, a.id ≠ id) →
    outcome (Work.deleteArticle id) (empty.perform ops) = (.error .notFound, empty.perform ops)

theorem Sound.outcome_deleteArticle (hs : s.Sound) {a : Article} (ha : a ∈ s.articles) :
    outcome (Work.deleteArticle a.id) s =
      (.ok (), { s with
        articles := s.articles.filter (· ≠ a)
        comments := s.comments.filter (·.articleId ≠ a.id) }) := by
  have hcomments : s.comments.filter (·.articleId != a.id) =
      s.comments.filter (·.articleId ≠ a.id) := by
    apply List.filter_congr
    intro c _
    rw [Bool.eq_iff_iff]
    simp
  rw [Work.outcome_deleteArticle_of_mem ha, Store.deleteArticle, filter_key_ne hs.articleIds ha,
    hcomments]

theorem Sound.emails_differ (hs : s.Sound) :
    s.users.Pairwise fun u v => eqIgnoringCase u.email v.email = false := by
  refine hs.emails.imp fun hfold => ?_
  rw [← Bool.not_eq_true] at hfold ⊢
  exact fun heq => hfold (equalFold_of_eqIgnoringCase heq)

theorem Evolves.pos_of_empty (h : Evolves empty s) :
    (∀ a ∈ s.articles, 0 < a.id) ∧ ∀ c ∈ s.comments, 0 < c.id := by
  constructor
  · intro a ha
    by_contra hle
    obtain ⟨b, hb, -⟩ := h.articles a ha (Int.not_lt.mp hle)
    exact nomatch hb
  · intro c hc
    by_contra hle
    exact nomatch h.comments c hc (Int.not_lt.mp hle)

theorem intact_perform (ops later : List (Operation × Instant)) : Intact ops later := by
  have hs := sound_empty.perform ops
  have hpos := (evolves_perform empty ops).pos_of_empty
  have hlater : (empty.perform ops).Evolves (empty.perform (ops ++ later)) := by
    rw [perform_append]
    exact evolves_perform _ later
  exact
    { sound := hs
      emails := hs.emails_differ
      articleNumbers := numbering_articles.nodup sound_empty (ops ++ later)
      commentNumbers := numbering_comments.nodup sound_empty (ops ++ later)
      articles_numbered := by
        intro a ha
        exact (numbering_articles.mem_iff sound_empty ops).mpr ⟨hpos.1 a ha, hs.articleIds_le a ha⟩
      comments_numbered := by
        intro c hc
        exact (numbering_comments.mem_iff sound_empty ops).mpr ⟨hpos.2 c hc, hs.commentIds_le c hc⟩
      articles_kept := by
        intro b hb hnumber
        exact hlater.articles b hb ((numbering_articles.mem_iff sound_empty ops).mp hnumber).2
      comments_kept := by
        intro c hc hnumber
        exact hlater.comments c hc ((numbering_comments.mem_iff sound_empty ops).mp hnumber).2
      deleteArticle := fun a ha => hs.outcome_deleteArticle ha
      deleteArticle_missing := fun _ hmissing => Work.outcome_deleteArticle_of_missing hs hmissing }

end Store

end Weblog
