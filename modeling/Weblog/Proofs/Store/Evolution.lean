import Weblog.Proofs.Store.Soundness

namespace Weblog.Store

/-- The second store may come after the first. -/
structure Evolves (s s' : Store) : Prop where
  lastUser_le : s.lastUser ≤ s'.lastUser
  lastArticle_le : s.lastArticle ≤ s'.lastArticle
  lastComment_le : s.lastComment ≤ s'.lastComment
  users : ∀ u ∈ s.users, ∃ v ∈ s'.users, v.id = u.id
  articles : ∀ b ∈ s'.articles, b.id ≤ s.lastArticle →
    ∃ a ∈ s.articles, a.id = b.id ∧ a.authorId = b.authorId ∧ a.createdAt = b.createdAt
  comments : ∀ c ∈ s'.comments, c.id ≤ s.lastComment → c ∈ s.comments

theorem Evolves.refl (s : Store) : Evolves s s where
  lastUser_le := Int.le_refl _
  lastArticle_le := Int.le_refl _
  lastComment_le := Int.le_refl _
  users u hu := ⟨u, hu, rfl⟩
  articles b hb _ := ⟨b, hb, rfl, rfl, rfl⟩
  comments _ hc _ := hc

theorem Evolves.trans {s s' s'' : Store} (h : Evolves s s') (h' : Evolves s' s'') :
    Evolves s s'' where
  lastUser_le := Int.le_trans h.lastUser_le h'.lastUser_le
  lastArticle_le := Int.le_trans h.lastArticle_le h'.lastArticle_le
  lastComment_le := Int.le_trans h.lastComment_le h'.lastComment_le
  users u hu := by
    obtain ⟨v, hv, hvu⟩ := h.users u hu
    obtain ⟨w, hw, hwv⟩ := h'.users v hv
    exact ⟨w, hw, hwv.trans hvu⟩
  articles c hc hold := by
    obtain ⟨b, hb, hbid, hbauthor, hbtime⟩ := h'.articles c hc (Int.le_trans hold h.lastArticle_le)
    obtain ⟨a, ha, haid, haauthor, hatime⟩ := h.articles b hb (hbid ▸ hold)
    exact ⟨a, ha, haid.trans hbid, haauthor.trans hbauthor, hatime.trans hbtime⟩
  comments c hc hold := h.comments c (h'.comments c hc (Int.le_trans hold h.lastComment_le)) hold

theorem Evolves.article_eq {s s' : Store} (h : Evolves s s') (hs : s.Sound) {a b : Article}
    (ha : a ∈ s.articles) (hb : b ∈ s'.articles) (hid : b.id = a.id) :
    b.authorId = a.authorId ∧ b.createdAt = a.createdAt := by
  have hold : b.id ≤ s.lastArticle := hid ▸ hs.articleIds_le a ha
  obtain ⟨a', ha', haid, hauthor, htime⟩ := h.articles b hb hold
  rw [hs.article_eq ha' ha (haid.trans hid)] at hauthor htime
  exact ⟨hauthor.symm, htime.symm⟩

theorem evolves_insertUser {s s' : Store} {username email passwordHash : String} {now : Instant}
    {u : User} (h : s.insertUser username email passwordHash now = .ok (u, s')) :
    Evolves s s' := by
  obtain ⟨-, -, rfl⟩ := insertUser_eq_ok h
  refine { Evolves.refl s with lastUser_le := ?_, users := ?_ }
  · exact Int.le_add_one (Int.le_refl _)
  · exact fun v hv => ⟨v, List.mem_append_left _ hv, rfl⟩

theorem evolves_updateUser {s s' : Store} {id : Int} {changes : UserChanges} {now : Instant}
    {found : Option User} (h : s.updateUser id changes now = .ok (found, s')) :
    Evolves s s' := by
  rcases updateUser_eq_ok h with ⟨-, -, rfl⟩ | ⟨u, hu, -, -, rfl⟩
  · exact .refl _
  have hid : u.id = id := by simpa using List.find?_some hu
  refine { Evolves.refl s with users := ?_ }
  intro v hv
  refine ⟨_, List.mem_map_of_mem hv, ?_⟩
  -- the row that is written in place of another has its number
  split
  · rename_i hv
    exact hid.trans hv.symm
  · rfl

theorem evolves_insertArticle {s s' : Store} {slug : String} {draft : ArticleDraft}
    {authorId id : Int} {now : Instant}
    (h : s.insertArticle slug draft authorId now = .ok (id, s')) : Evolves s s' := by
  obtain ⟨hid, -, -, rfl⟩ := insertArticle_eq_ok h
  refine { Evolves.refl s with lastArticle_le := ?_, articles := ?_ }
  · exact Int.le_add_one (Int.le_refl _)
  · intro b hb hold
    rcases List.mem_append.mp hb with hb | hb
    · exact ⟨b, hb, rfl, rfl, rfl⟩
    · rw [List.mem_singleton.mp hb] at hold
      have hle : id ≤ s.lastArticle := hold
      omega

theorem evolves_updateArticle {s s' : Store} {id : Int} {slug : String}
    {changes : ArticleChanges} {now : Instant} {isThere : Bool}
    (h : s.updateArticle id slug changes now = .ok (isThere, s')) : Evolves s s' := by
  rcases updateArticle_eq_ok h with ⟨-, -, rfl⟩ | ⟨-, -, -, rfl⟩
  · exact .refl _
  refine { Evolves.refl s with articles := ?_ }
  intro b hb _
  obtain ⟨a, ha, rfl⟩ := List.mem_map.mp hb
  refine ⟨a, ha, ?_⟩
  split
  · exact ⟨rfl, rfl, rfl⟩
  · exact ⟨rfl, rfl, rfl⟩

theorem evolves_insertComment {s s' : Store} {articleId authorId id : Int} {body : String}
    {now : Instant} (h : s.insertComment articleId authorId body now = .ok (id, s')) :
    Evolves s s' := by
  obtain ⟨hid, -, -, rfl⟩ := insertComment_eq_ok h
  refine { Evolves.refl s with lastComment_le := ?_, comments := ?_ }
  · exact Int.le_add_one (Int.le_refl _)
  · intro c hc hold
    rcases List.mem_append.mp hc with hc | hc
    · exact hc
    · rw [List.mem_singleton.mp hc] at hold
      have hle : id ≤ s.lastComment := hold
      omega

theorem evolves_deleteArticle (s : Store) (id : Int) : Evolves s (s.deleteArticle id).2 :=
  { Evolves.refl s with
    articles := fun b hb _ => ⟨b, List.mem_of_mem_filter hb, rfl, rfl, rfl⟩
    comments := fun _ hc _ => List.mem_of_mem_filter hc }

theorem evolves_deleteComment (s : Store) (id : Int) : Evolves s (s.deleteComment id).2 :=
  { Evolves.refl s with comments := fun _ hc _ => List.mem_of_mem_filter hc }

theorem evolves_after (q : Statement) (s : Store) : Evolves s (q.after s) := by
  rw [Statement.after]
  split
  · rename_i h
    cases q with
    | insertUser => exact evolves_insertUser h
    | updateUser => exact evolves_updateUser h
    | insertArticle => exact evolves_insertArticle h
    | updateArticle => exact evolves_updateArticle h
    | insertComment => exact evolves_insertComment h
    | deleteArticle id => cases h; exact evolves_deleteArticle s id
    | deleteComment id => cases h; exact evolves_deleteComment s id
    | _ => cases h; exact .refl s
  · exact .refl s

end Weblog.Store
