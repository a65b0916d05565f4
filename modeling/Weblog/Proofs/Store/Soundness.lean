import Mathlib.Data.List.Nodup
import Weblog.Proofs.Session

/-!
What holds of the tables at every moment: numbers and unique columns do not repeat, every row
names rows that are there, and no number is greater than the last one given. Every statement
keeps it, whatever its arguments.
-/

namespace Weblog

open Weblog.Text

section Rows

variable {α : Type} {key : α → Int} {l : List α}

theorem eq_of_key_eq (hl : (l.map key).Nodup) {a b : α} (ha : a ∈ l) (hb : b ∈ l)
    (hab : key a = key b) : a = b :=
  List.inj_on_of_nodup_map hl ha hb hab

theorem find?_key_eq (hl : (l.map key).Nodup) {a : α} (ha : a ∈ l) :
    l.find? (key · == key a) = some a := by
  cases h : l.find? (key · == key a) with
  | none =>
      have hne := List.find?_eq_none.mp h a ha
      simp at hne
  | some b =>
      have hb : key b = key a := by simpa using List.find?_some h
      rw [eq_of_key_eq hl (List.mem_of_find?_eq_some h) ha hb]

theorem filter_key_ne [DecidableEq α] (hl : (l.map key).Nodup) {a : α} (ha : a ∈ l) :
    (l.filter fun b => key b != key a) = l.filter (· ≠ a) := by
  apply List.filter_congr
  intro b hb
  by_cases hid : key b = key a
  · simp [eq_of_key_eq hl hb ha hid]
  · simp [hid, mt (congrArg key) hid]

theorem map_key_replace (n : Int) (g : α → α) (hg : ∀ a, key a = n → key (g a) = n) :
    (l.map fun a => if key a = n then g a else a).map key = l.map key := by
  rw [List.map_map]
  apply List.map_congr_left
  intro a _
  rw [Function.comp_apply]
  split
  · rename_i ha
    rw [hg a ha, ha]
  · rfl

theorem key_le_of_map_key_eq {l' : List α} {n : Int} (h : l'.map key = l.map key)
    (hl : ∀ a ∈ l, key a ≤ n) : ∀ a ∈ l', key a ≤ n := by
  intro a ha
  obtain ⟨b, hb, hba⟩ := List.mem_map.mp (h ▸ List.mem_map_of_mem ha)
  exact hba ▸ hl b hb

theorem exists_key_of_map_key_eq {l' : List α} {n : Int} (h : l'.map key = l.map key)
    (hn : ∃ a ∈ l, key a = n) : ∃ a ∈ l', key a = n := by
  rw [← List.mem_map] at hn ⊢
  rwa [h]

theorem nodup_map_append {β : Type} {f : α → β} {a : α} (hl : (l.map f).Nodup)
    (ha : ∀ b ∈ l, f b ≠ f a) : ((l ++ [a]).map f).Nodup := by
  rw [List.map_append, List.nodup_append]
  refine ⟨hl, by simp, ?_⟩
  intro x hx y hy
  obtain ⟨b, hb, rfl⟩ := List.mem_map.mp hx
  rw [List.mem_singleton.mp hy]
  exact ha b hb

theorem nodup_map_filter {β : Type} {f : α → β} (p : α → Bool) (hl : (l.map f).Nodup) :
    ((l.filter p).map f).Nodup :=
  hl.sublist (List.filter_sublist.map f)

theorem key_ne_next {n : Int} {a : α} (hl : ∀ b ∈ l, key b ≤ n) (ha : key a = n + 1) :
    ∀ b ∈ l, key b ≠ key a := by
  intro b hb
  have := hl b hb
  omega

theorem key_le_next {n : Int} {a : α} (hl : ∀ b ∈ l, key b ≤ n) (ha : key a = n + 1) :
    ∀ b ∈ l ++ [a], key b ≤ n + 1 := by
  intro b hb
  rcases List.mem_append.mp hb with hb | hb
  · have := hl b hb
    omega
  · rw [List.mem_singleton.mp hb]
    exact Int.le_of_eq ha

theorem pairwise_replace {R : α → α → Prop} (hR : ∀ a b, R a b → R b a) {g : α → α} {n : Int}
    (hl : l.Pairwise R) (hkey : (l.map key).Nodup)
    (hg : ∀ a ∈ l, ∀ b ∈ l, key a = n → key b ≠ n → R (g a) b) :
    (l.map fun a => if key a = n then g a else a).Pairwise R := by
  rw [List.pairwise_map]
  have hkeys : l.Pairwise fun a b => key a ≠ key b := List.pairwise_map.mp hkey
  refine (hl.and hkeys).imp_of_mem ?_
  rintro a b ha hb ⟨hab, hne⟩
  by_cases han : key a = n <;> by_cases hbn : key b = n
  · exact absurd (han.trans hbn.symm) hne
  · simpa [han, hbn] using hg a ha b hb han hbn
  · simpa [han, hbn] using hR _ _ (hg b hb a ha hbn han)
  · simpa [han, hbn] using hab

end Rows

theorem equalFold_comm (a b : String) : equalFold a b = equalFold b a := by
  rw [equalFold, equalFold, Bool.beq_comm, Bool.beq_comm (a := (untilNul a.toList).map _)]

namespace Store

/-- The tables are sound. -/
structure Sound (s : Store) : Prop where
  userIds : (s.users.map User.id).Nodup
  userIds_le : ∀ u ∈ s.users, u.id ≤ s.lastUser
  usernames : (s.users.map User.username).Nodup
  emails : s.users.Pairwise fun u v => equalFold u.email v.email = false
  articleIds : (s.articles.map Article.id).Nodup
  articleIds_le : ∀ a ∈ s.articles, a.id ≤ s.lastArticle
  slugs : (s.articles.map Article.slug).Nodup
  articleAuthors : ∀ a ∈ s.articles, ∃ u ∈ s.users, u.id = a.authorId
  commentIds : (s.comments.map Comment.id).Nodup
  commentIds_le : ∀ c ∈ s.comments, c.id ≤ s.lastComment
  commentAuthors : ∀ c ∈ s.comments, ∃ u ∈ s.users, u.id = c.authorId
  commentArticles : ∀ c ∈ s.comments, ∃ a ∈ s.articles, a.id = c.articleId

theorem sound_empty : Sound .empty := by
  constructor <;> simp [Store.empty]

theorem isSome_user?_iff {s : Store} {id : Int} :
    (s.user? id).isSome = true ↔ ∃ u ∈ s.users, u.id = id := by
  simp [user?]

theorem Sound.user?_eq {s : Store} (h : s.Sound) {u : User} (hu : u ∈ s.users) :
    s.user? u.id = some u :=
  find?_key_eq h.userIds hu

theorem Sound.article_eq {s : Store} (h : s.Sound) {a b : Article} (ha : a ∈ s.articles)
    (hb : b ∈ s.articles) (hid : a.id = b.id) : a = b :=
  eq_of_key_eq h.articleIds ha hb hid

theorem userConflict?_eq_none_iff {others : List User} {u : User} :
    userConflict? others u = none ↔
      ∀ o ∈ others, o.username ≠ u.username ∧ equalFold o.email u.email = false := by
  simp only [userConflict?]
  split
  · rename_i h
    obtain ⟨o, ho, hname⟩ := List.any_eq_true.mp h
    simp only [reduceCtorEq, false_iff, not_forall]
    exact ⟨o, ho, fun hne => hne.1 (by simpa using hname)⟩
  · rename_i h
    split
    · rename_i he
      obtain ⟨o, ho, hmail⟩ := List.any_eq_true.mp he
      simp only [reduceCtorEq, false_iff, not_forall]
      exact ⟨o, ho, fun hne => by simp [hmail] at hne⟩
    · rename_i he
      simp only [List.any_eq_true, beq_iff_eq, not_exists, not_and] at h he
      simp only [true_iff]
      exact fun o ho => ⟨h o ho, by simpa using he o ho⟩

theorem insertUser_eq_ok {s s' : Store} {username email passwordHash : String} {now : Instant}
    {u : User} (h : s.insertUser username email passwordHash now = .ok (u, s')) :
    u = ⟨s.lastUser + 1, username, email, passwordHash, "", "", now, now⟩ ∧
      userConflict? s.users u = none ∧
      s' = { s with users := s.users ++ [u], lastUser := s.lastUser + 1 } := by
  simp only [insertUser] at h
  split at h
  · cases h
  · rename_i hfree
    cases h
    exact ⟨rfl, hfree, rfl⟩

theorem updateUser_eq_ok {s s' : Store} {id : Int} {changes : UserChanges} {now : Instant}
    {found : Option User} (h : s.updateUser id changes now = .ok (found, s')) :
    (s.user? id = none ∧ found = none ∧ s' = s) ∨
      ∃ u, s.user? id = some u ∧ found = some (changeUser u changes now) ∧
        userConflict? (s.users.filter (·.id != id)) (changeUser u changes now) = none ∧
        s' = { s with
          users := s.users.map fun v => if v.id = id then changeUser u changes now else v } := by
  simp only [updateUser] at h
  split at h
  · rename_i hnone
    cases h
    exact .inl ⟨hnone, rfl, rfl⟩
  · rename_i u hsome
    split at h
    · cases h
    · rename_i hfree
      cases h
      exact .inr ⟨u, hsome, rfl, hfree, rfl⟩

theorem updateUser_others {s s' : Store} {id : Int} {changes : UserChanges} {now : Instant}
    {found : Option User} (h : s.updateUser id changes now = .ok (found, s')) :
    ∃ users, s' = { s with users := users } := by
  rcases updateUser_eq_ok h with ⟨-, -, rfl⟩ | ⟨u, -, -, -, rfl⟩
  · exact ⟨_, rfl⟩
  · exact ⟨_, rfl⟩

theorem insertUser_eq_error {s : Store} {username email passwordHash : String} {now : Instant}
    {e : DatabaseError} (h : s.insertUser username email passwordHash now = .error e) :
    ∃ field, e = .repeated field := by
  simp only [insertUser] at h
  split at h
  · exact ⟨_, (Except.error.inj h).symm⟩
  · cases h

theorem updateUser_eq_error {s : Store} {id : Int} {changes : UserChanges} {now : Instant}
    {e : DatabaseError} (h : s.updateUser id changes now = .error e) :
    ∃ field, e = .repeated field := by
  simp only [updateUser] at h
  split at h
  · cases h
  · split at h
    · exact ⟨_, (Except.error.inj h).symm⟩
    · cases h

theorem insertArticle_eq_ok {s s' : Store} {slug : String} {draft : ArticleDraft}
    {authorId id : Int} {now : Instant}
    (h : s.insertArticle slug draft authorId now = .ok (id, s')) :
    id = s.lastArticle + 1 ∧ (∀ a ∈ s.articles, a.slug ≠ slug) ∧
      (∃ u ∈ s.users, u.id = authorId) ∧
      s' = { s with
        articles := s.articles ++
          [⟨id, slug, draft.title, draft.description, draft.body, authorId, 0, now, now⟩]
        lastArticle := s.lastArticle + 1 } := by
  simp only [insertArticle] at h
  split at h
  · cases h
  · rename_i hslug
    split at h
    · cases h
    · rename_i hauthor
      cases h
      refine ⟨rfl, by simpa using hslug, ?_, rfl⟩
      rw [← isSome_user?_iff, Option.isSome_iff_ne_none]
      simpa using hauthor

theorem updateArticle_eq_ok {s s' : Store} {id : Int} {slug : String} {changes : ArticleChanges}
    {now : Instant} {isThere : Bool}
    (h : s.updateArticle id slug changes now = .ok (isThere, s')) :
    ((∀ a ∈ s.articles, a.id ≠ id) ∧ isThere = false ∧ s' = s) ∨
      ((∃ a ∈ s.articles, a.id = id) ∧ isThere = true ∧
        (∀ a ∈ s.articles, a.id ≠ id → a.slug ≠ slug) ∧
        s' = { s with
          articles := s.articles.map fun a =>
            if a.id = id then changeArticle a slug changes now else a }) := by
  simp only [updateArticle] at h
  split at h
  · rename_i hnone
    cases h
    exact .inl ⟨by simpa using hnone, rfl, rfl⟩
  · rename_i hsome
    split at h
    · cases h
    · rename_i hfree
      cases h
      exact .inr ⟨by simpa using hsome, rfl, by simpa using hfree, rfl⟩

theorem updateArticle_eq_error {s : Store} {id : Int} {slug : String} {changes : ArticleChanges}
    {now : Instant} {e : DatabaseError} (h : s.updateArticle id slug changes now = .error e) :
    e = .repeated .slug := by
  simp only [updateArticle] at h
  split at h
  · cases h
  · split at h
    · exact (Except.error.inj h).symm
    · cases h

theorem insertComment_eq_ok {s s' : Store} {articleId authorId id : Int} {body : String}
    {now : Instant} (h : s.insertComment articleId authorId body now = .ok (id, s')) :
    id = s.lastComment + 1 ∧ (∃ u ∈ s.users, u.id = authorId) ∧
      (∃ a ∈ s.articles, a.id = articleId) ∧
      s' = { s with
        comments := s.comments ++ [⟨id, body, authorId, articleId, now, now⟩]
        lastComment := s.lastComment + 1 } := by
  simp only [insertComment] at h
  split at h
  · cases h
  · rename_i hthere
    simp only [Bool.or_eq_true, not_or, Bool.not_eq_true] at hthere
    cases h
    refine ⟨rfl, ?_, by simpa using hthere.2, rfl⟩
    rw [← isSome_user?_iff]
    simpa using hthere.1

theorem Sound.insertUser {s s' : Store} {username email passwordHash : String} {now : Instant}
    {u : User} (hs : s.Sound)
    (h : s.insertUser username email passwordHash now = .ok (u, s')) : s'.Sound := by
  obtain ⟨hu, hfree, rfl⟩ := insertUser_eq_ok h
  rw [userConflict?_eq_none_iff] at hfree
  have hid : u.id = s.lastUser + 1 := by rw [hu]
  refine { hs with
    userIds := nodup_map_append hs.userIds (key_ne_next hs.userIds_le hid)
    userIds_le := key_le_next hs.userIds_le hid
    usernames := nodup_map_append hs.usernames fun v hv => (hfree v hv).1, emails := ?_
    articleAuthors := ?_, commentAuthors := ?_ }
  · rw [List.pairwise_append]
    refine ⟨hs.emails, by simp, ?_⟩
    intro v hv w hw
    rw [List.mem_singleton.mp hw]
    exact (hfree v hv).2
  · intro a ha
    obtain ⟨v, hv, hva⟩ := hs.articleAuthors a ha
    exact ⟨v, List.mem_append_left _ hv, hva⟩
  · intro c hc
    obtain ⟨v, hv, hvc⟩ := hs.commentAuthors c hc
    exact ⟨v, List.mem_append_left _ hv, hvc⟩

theorem Sound.updateUser {s s' : Store} {id : Int} {changes : UserChanges} {now : Instant}
    {found : Option User} (hs : s.Sound)
    (h : s.updateUser id changes now = .ok (found, s')) : s'.Sound := by
  rcases updateUser_eq_ok h with ⟨-, -, rfl⟩ | ⟨u, hu, -, hfree, rfl⟩
  · exact hs
  rw [userConflict?_eq_none_iff] at hfree
  have hid : u.id = id := by simpa using List.find?_some hu
  have hothers : ∀ v ∈ s.users, v.id ≠ id →
      v.username ≠ (changeUser u changes now).username ∧
        equalFold v.email (changeUser u changes now).email = false := by
    intro v hv hne
    exact hfree v (List.mem_filter.mpr ⟨hv, by simpa using hne⟩)
  have hids : (s.users.map fun v => if v.id = id then changeUser u changes now else v).map User.id =
      s.users.map User.id :=
    map_key_replace id _ fun _ _ => hid
  refine { hs with
    userIds := by simpa only [hids] using hs.userIds
    userIds_le := key_le_of_map_key_eq hids hs.userIds_le
    usernames := ?_, emails := ?_
    articleAuthors := fun a ha => exists_key_of_map_key_eq hids (hs.articleAuthors a ha)
    commentAuthors := fun c hc => exists_key_of_map_key_eq hids (hs.commentAuthors c hc) }
  · rw [List.Nodup, List.pairwise_map]
    refine pairwise_replace (fun _ _ hab => hab.symm) (List.pairwise_map.mp hs.usernames)
      hs.userIds ?_
    intro v _ w hw _ hwn
    exact (hothers w hw hwn).1.symm
  · refine pairwise_replace (fun v w hvw => equalFold_comm v.email w.email ▸ hvw) hs.emails
      hs.userIds ?_
    intro v _ w hw _ hwn
    rw [equalFold_comm]
    exact (hothers w hw hwn).2

theorem Sound.insertArticle {s s' : Store} {slug : String} {draft : ArticleDraft}
    {authorId id : Int} {now : Instant} (hs : s.Sound)
    (h : s.insertArticle slug draft authorId now = .ok (id, s')) : s'.Sound := by
  obtain ⟨rfl, hslug, hauthor, rfl⟩ := insertArticle_eq_ok h
  refine { hs with
    articleIds := nodup_map_append hs.articleIds (key_ne_next hs.articleIds_le rfl)
    articleIds_le := key_le_next hs.articleIds_le rfl
    slugs := nodup_map_append hs.slugs hslug
    articleAuthors := ?_, commentArticles := ?_ }
  · intro a ha
    rcases List.mem_append.mp ha with ha | ha
    · exact hs.articleAuthors a ha
    · rw [List.mem_singleton.mp ha]
      exact hauthor
  · intro c hc
    obtain ⟨a, ha, hac⟩ := hs.commentArticles c hc
    exact ⟨a, List.mem_append_left _ ha, hac⟩

theorem Sound.updateArticle {s s' : Store} {id : Int} {slug : String} {changes : ArticleChanges}
    {now : Instant} {isThere : Bool} (hs : s.Sound)
    (h : s.updateArticle id slug changes now = .ok (isThere, s')) : s'.Sound := by
  rcases updateArticle_eq_ok h with ⟨-, -, rfl⟩ | ⟨-, -, hslug, rfl⟩
  · exact hs
  have hids : (s.articles.map fun a =>
      if a.id = id then changeArticle a slug changes now else a).map Article.id =
        s.articles.map Article.id :=
    map_key_replace id _ fun _ ha => ha
  refine { hs with
    articleIds := by simpa only [hids] using hs.articleIds
    articleIds_le := key_le_of_map_key_eq hids hs.articleIds_le
    slugs := ?_, articleAuthors := ?_
    commentArticles := fun c hc => exists_key_of_map_key_eq hids (hs.commentArticles c hc) }
  · rw [List.Nodup, List.pairwise_map]
    refine pairwise_replace (fun _ _ hab => hab.symm) (List.pairwise_map.mp hs.slugs)
      hs.articleIds ?_
    intro a _ b hb _ hbn
    exact (hslug b hb hbn).symm
  · intro a ha
    obtain ⟨b, hb, rfl⟩ := List.mem_map.mp ha
    have hauthor := hs.articleAuthors b hb
    split
    · exact hauthor
    · exact hauthor

theorem Sound.deleteArticle {s : Store} (hs : s.Sound) (id : Int) :
    (s.deleteArticle id).2.Sound := by
  refine { hs with
    articleIds := nodup_map_filter _ hs.articleIds
    articleIds_le := fun a ha => hs.articleIds_le a (List.mem_of_mem_filter ha)
    slugs := nodup_map_filter _ hs.slugs
    articleAuthors := fun a ha => hs.articleAuthors a (List.mem_of_mem_filter ha)
    commentIds := nodup_map_filter _ hs.commentIds
    commentIds_le := fun c hc => hs.commentIds_le c (List.mem_of_mem_filter hc)
    commentAuthors := fun c hc => hs.commentAuthors c (List.mem_of_mem_filter hc)
    commentArticles := ?_ }
  intro c hc
  obtain ⟨hc, hne⟩ := List.mem_filter.mp hc
  obtain ⟨a, ha, hac⟩ := hs.commentArticles c hc
  exact ⟨a, List.mem_filter.mpr ⟨ha, by rwa [hac]⟩, hac⟩

theorem Sound.insertComment {s s' : Store} {articleId authorId id : Int} {body : String}
    {now : Instant} (hs : s.Sound)
    (h : s.insertComment articleId authorId body now = .ok (id, s')) : s'.Sound := by
  obtain ⟨rfl, hauthor, harticle, rfl⟩ := insertComment_eq_ok h
  refine { hs with
    commentIds := nodup_map_append hs.commentIds (key_ne_next hs.commentIds_le rfl)
    commentIds_le := key_le_next hs.commentIds_le rfl
    commentAuthors := ?_, commentArticles := ?_ }
  · intro c hc
    rcases List.mem_append.mp hc with hc | hc
    · exact hs.commentAuthors c hc
    · rw [List.mem_singleton.mp hc]
      exact hauthor
  · intro c hc
    rcases List.mem_append.mp hc with hc | hc
    · exact hs.commentArticles c hc
    · rw [List.mem_singleton.mp hc]
      exact harticle

theorem Sound.deleteComment {s : Store} (hs : s.Sound) (id : Int) :
    (s.deleteComment id).2.Sound :=
  { hs with
    commentIds := nodup_map_filter _ hs.commentIds
    commentIds_le := fun c hc => hs.commentIds_le c (List.mem_of_mem_filter hc)
    commentAuthors := fun c hc => hs.commentAuthors c (List.mem_of_mem_filter hc)
    commentArticles := fun c hc => hs.commentArticles c (List.mem_of_mem_filter hc) }

/-- Whatever is asked of a sound store, it stays sound. -/
theorem Sound.after {s : Store} (hs : s.Sound) (q : Statement) : (q.after s).Sound := by
  rw [Statement.after]
  split
  · rename_i h
    cases q with
    | insertUser => exact hs.insertUser h
    | updateUser => exact hs.updateUser h
    | insertArticle => exact hs.insertArticle h
    | updateArticle => exact hs.updateArticle h
    | insertComment => exact hs.insertComment h
    | deleteArticle id => cases h; exact hs.deleteArticle id
    | deleteComment id => cases h; exact hs.deleteComment id
    | _ => cases h; exact hs
  · exact hs

end Store

end Weblog
