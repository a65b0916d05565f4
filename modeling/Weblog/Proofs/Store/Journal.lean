import Weblog.Proofs.Store.Evolution
import Weblog.Proofs.Store.Work

/-!
A journal of the statements that a store has carried out, and what it tells of the table of
articles: which rows are in it, and which statement has made or removed each.
-/

namespace Weblog

/-- A statement, and the store that it meets. -/
structure Turn where
  query : Statement
  store : Store

namespace Turn

/-- The store that the statement leaves behind. -/
def after (t : Turn) : Store :=
  t.query.after t.store

/-- The statement changes something. -/
def isChange (t : Turn) : Bool :=
  t.after ≠ t.store

theorem isChange_eq_false_iff {t : Turn} : t.isChange = false ↔ t.after = t.store := by
  simp [isChange]

/-- The number of the article that the statement adds, if it adds one. -/
def inserted? : Turn → Option Int
  | ⟨.insertArticle slug draft authorId now, s⟩ =>
    match s.insertArticle slug draft authorId now with
    | .ok (id, _) => some id
    | .error _ => none
  | _ => none

/-- The number of the article that the statement deletes, if it deletes one. -/
def deleted? : Turn → Option Int
  | ⟨.deleteArticle id, s⟩ => if (s.deleteArticle id).1 then some id else none
  | _ => none

/-- What a statement does to the table of articles. -/
inductive Writes (t : Turn) : Prop
  | nothing (hinserted : t.inserted? = none) (hdeleted : t.deleted? = none)
      (hafter : t.after.articles = t.store.articles)
  | adds {slug : String} {draft : ArticleDraft} {authorId : Int} {now : Instant}
      (hquery : t.query = .insertArticle slug draft authorId now)
      (hinserted : t.inserted? = some (t.store.lastArticle + 1)) (hdeleted : t.deleted? = none)
      (hfree : ∀ a ∈ t.store.articles, a.slug ≠ slug)
      (hafter : t.after = t.store.withArticle (t.store.newArticle slug draft authorId now))
  | revises {id : Int} {slug : String} {changes : ArticleChanges} {now : Instant}
      (hquery : t.query = .updateArticle id slug changes now)
      (hinserted : t.inserted? = none) (hdeleted : t.deleted? = none)
      (hafter : t.after = t.store.withRevision id slug changes now)
  | removes {a : Article} (ha : a ∈ t.store.articles) (hquery : t.query = .deleteArticle a.id)
      (hinserted : t.inserted? = none) (hdeleted : t.deleted? = some a.id)
      (hafter : t.after = (t.store.deleteArticle a.id).2)

theorem writes_insertArticle (slug : String) (draft : ArticleDraft) (authorId : Int)
    (now : Instant) (s : Store) : Writes ⟨.insertArticle slug draft authorId now, s⟩ := by
  cases hexec : s.insertArticle slug draft authorId now with
  | error e =>
      have hafter := Statement.after_of_exec_error (q := .insertArticle ..) hexec
      exact .nothing (by simp only [inserted?, hexec]) rfl (congrArg Store.articles hafter)
  | ok written =>
      obtain ⟨id, s'⟩ := written
      have hafter := Statement.after_of_exec_ok (q := .insertArticle ..) hexec
      have hinserted : inserted? ⟨.insertArticle slug draft authorId now, s⟩ = some id := by
        simp only [inserted?, hexec]
      obtain ⟨rfl, hfree, -, rfl⟩ := Store.insertArticle_eq_ok hexec
      exact .adds rfl hinserted rfl hfree hafter

theorem writes_updateArticle (id : Int) (slug : String) (changes : ArticleChanges) (now : Instant)
    (s : Store) : Writes ⟨.updateArticle id slug changes now, s⟩ := by
  cases hexec : s.updateArticle id slug changes now with
  | error e =>
      have hafter := Statement.after_of_exec_error (q := .updateArticle ..) hexec
      exact .nothing rfl rfl (congrArg Store.articles hafter)
  | ok written =>
      have hafter := Statement.after_of_exec_ok (q := .updateArticle ..) hexec
      rcases Store.updateArticle_eq_ok hexec with ⟨-, -, hs'⟩ | ⟨-, -, -, hs'⟩
      · exact .nothing rfl rfl (congrArg Store.articles (hafter.trans hs'))
      · exact .revises rfl rfl rfl (hafter.trans hs')

theorem writes_deleteArticle (id : Int) (s : Store) : Writes ⟨.deleteArticle id, s⟩ := by
  by_cases hthere : ∃ a ∈ s.articles, a.id = id
  · obtain ⟨a, ha, rfl⟩ := hthere
    have hany : (s.deleteArticle a.id).1 = true := by simpa [Store.deleteArticle] using ⟨a, ha, rfl⟩
    exact .removes ha rfl rfl (if_pos hany) rfl
  · have hmissing : ∀ a ∈ s.articles, a.id ≠ id := fun a ha hid => hthere ⟨a, ha, hid⟩
    have hnone : ¬ (s.deleteArticle id).1 = true := by simpa [Store.deleteArticle] using hmissing
    refine .nothing rfl (if_neg hnone) ?_
    exact List.filter_eq_self.mpr fun a ha => by simpa using hmissing a ha

theorem writes (t : Turn) : t.Writes := by
  obtain ⟨q, s⟩ := t
  cases q with
  | insertArticle => exact writes_insertArticle _ _ _ _ s
  | updateArticle => exact writes_updateArticle _ _ _ _ s
  | deleteArticle id => exact writes_deleteArticle id s
  | insertUser username email passwordHash now =>
      refine .nothing rfl rfl ?_
      rw [after, Statement.after]
      split
      · rename_i h
        obtain ⟨-, -, rfl⟩ := Store.insertUser_eq_ok h
        rfl
      · rfl
  | updateUser id changes now =>
      refine .nothing rfl rfl ?_
      rw [after, Statement.after]
      split
      · rename_i h
        obtain ⟨users, rfl⟩ := Store.updateUser_others h
        rfl
      · rfl
  | insertComment articleId authorId body now =>
      refine .nothing rfl rfl ?_
      rw [after, Statement.after]
      split
      · rename_i h
        obtain ⟨-, -, -, rfl⟩ := Store.insertComment_eq_ok h
        rfl
      · rfl
  | _ => exact .nothing rfl rfl rfl

/-- The statement adds one row, the one with the number, whose slug no row of the table has. -/
def Inserts (t : Turn) (id : Int) : Prop :=
  ∃ slug draft authorId now, t.query = .insertArticle slug draft authorId now ∧
    id = t.store.lastArticle + 1 ∧ (∀ a ∈ t.store.articles, a.slug ≠ slug) ∧
    t.after = t.store.withArticle (t.store.newArticle slug draft authorId now)

/-- The statement leaves every row as it is, but for the one whose number it names: that one it may
change or delete. -/
def Spares (t : Turn) : Prop :=
  ∀ a ∈ t.store.articles, a ∈ t.after.articles ∨ t.query = .deleteArticle a.id ∨
    ∃ slug changes now, t.query = .updateArticle a.id slug changes now ∧
      Store.changeArticle a slug changes now ∈ t.after.articles

theorem inserts_of_inserted? {t : Turn} {id : Int} (h : t.inserted? = some id) : t.Inserts id := by
  cases t.writes with
  | adds hquery hinserted hdeleted hfree hafter =>
      obtain rfl := Option.some.inj (hinserted.symm.trans h)
      exact ⟨_, _, _, _, hquery, rfl, hfree, hafter⟩
  | nothing hinserted => exact nomatch hinserted.symm.trans h
  | revises hquery hinserted => exact nomatch hinserted.symm.trans h
  | removes ha hquery hinserted => exact nomatch hinserted.symm.trans h

theorem exists_of_deleted? {t : Turn} {id : Int} (h : t.deleted? = some id) :
    ∃ a ∈ t.store.articles, a.id = id := by
  cases t.writes with
  | removes ha hquery hinserted hdeleted =>
      exact ⟨_, ha, Option.some.inj (hdeleted.symm.trans h)⟩
  | nothing hinserted hdeleted => exact nomatch hdeleted.symm.trans h
  | adds hquery hinserted hdeleted => exact nomatch hdeleted.symm.trans h
  | revises hquery hinserted hdeleted => exact nomatch hdeleted.symm.trans h

theorem ids_after (t : Turn) :
    t.after.articles.map Article.id =
      (t.store.articles.map Article.id ++ t.inserted?.toList).filter (· ∉ t.deleted?.toList) := by
  cases t.writes with
  | nothing hinserted hdeleted hafter =>
      rw [hinserted, hdeleted, hafter]
      simp
  | adds hquery hinserted hdeleted hfree hafter =>
      rw [hinserted, hdeleted, hafter, Store.withArticle, List.map_append]
      simp [Store.newArticle]
  | @revises id slug changes now hquery hinserted hdeleted hafter =>
      rw [hinserted, hdeleted, hafter, Store.withRevision,
        map_key_replace id (Store.changeArticle · slug changes now) fun a (ha : a.id = id) => ha]
      simp
  | removes ha hquery hinserted hdeleted hafter =>
      rw [hinserted, hdeleted, hafter, Store.deleteArticle, Option.toList_none, List.append_nil,
        List.filter_map]
      congr 1
      apply List.filter_congr
      intro b _
      rw [Bool.eq_iff_iff]
      simp

theorem spares (t : Turn) : t.Spares := by
  intro a ha
  cases t.writes with
  | nothing hinserted hdeleted hafter => exact .inl (hafter ▸ ha)
  | adds hquery hinserted hdeleted hfree hafter =>
      rw [hafter]
      exact .inl (List.mem_append_left _ ha)
  | @revises id slug changes now hquery hinserted hdeleted hafter =>
      have hmem := List.mem_map_of_mem
        (f := fun a => if a.id = id then Store.changeArticle a slug changes now else a) ha
      rw [hafter]
      by_cases hid : a.id = id
      · rw [if_pos hid] at hmem
        exact .inr (.inr ⟨slug, changes, now, hid ▸ hquery, hmem⟩)
      · rw [if_neg hid] at hmem
        exact .inl hmem
  | @removes b hb hquery hinserted hdeleted hafter =>
      by_cases hid : a.id = b.id
      · exact .inr (.inl (hid ▸ hquery))
      · rw [hafter]
        exact .inl (List.mem_filter.mpr ⟨ha, by simpa using hid⟩)

end Turn

/-- The statements that have been carried out since the store was new, and the store that they
leave behind. -/
inductive Journal : List Turn → Store → Prop
  | start : Journal [] .empty
  | carry {turns : List Turn} {s : Store} (h : Journal turns s) (q : Statement) :
      Journal (turns ++ [⟨q, s⟩]) (q.after s)

namespace Journal

/-- The numbers of the articles that have been added, in order. -/
def inserted (turns : List Turn) : List Int :=
  turns.filterMap Turn.inserted?

/-- The numbers of the articles that have been deleted. -/
def deleted (turns : List Turn) : List Int :=
  turns.filterMap Turn.deleted?

theorem inserted_append (turns : List Turn) (t : Turn) :
    inserted (turns ++ [t]) = inserted turns ++ t.inserted?.toList := by
  rw [inserted, List.filterMap_append, inserted]
  cases h : t.inserted? <;> simp [h]

theorem deleted_append (turns : List Turn) (t : Turn) :
    deleted (turns ++ [t]) = deleted turns ++ t.deleted?.toList := by
  rw [deleted, List.filterMap_append, deleted]
  cases h : t.deleted? <;> simp [h]

variable {turns : List Turn} {s : Store}

theorem sound (h : Journal turns s) : s.Sound := by
  induction h with
  | start => exact Store.sound_empty
  | carry _ q ih => exact ih.after q

theorem inserted_le (h : Journal turns s) : ∀ id ∈ inserted turns, id ≤ s.lastArticle := by
  induction h with
  | start => exact List.forall_mem_nil _
  | @carry turns s h q ih =>
      intro id hid
      rw [inserted_append] at hid
      rcases List.mem_append.mp hid with hold | hnew
      · exact Int.le_trans (ih id hold) (Store.evolves_after q s).lastArticle_le
      · obtain ⟨_, _, _, _, -, hnumber, -, hafter⟩ :=
          Turn.inserts_of_inserted? (Option.mem_toList.mp hnew)
        rw [show q.after s = _ from hafter]
        exact Int.le_of_eq hnumber

theorem deleted_le (h : Journal turns s) : ∀ id ∈ deleted turns, id ≤ s.lastArticle := by
  induction h with
  | start => exact List.forall_mem_nil _
  | @carry turns s h q ih =>
      intro id hid
      refine Int.le_trans ?_ (Store.evolves_after q s).lastArticle_le
      rw [deleted_append] at hid
      rcases List.mem_append.mp hid with hold | hnew
      · exact ih id hold
      · obtain ⟨a, ha, rfl⟩ := Turn.exists_of_deleted? (Option.mem_toList.mp hnew)
        exact h.sound.articleIds_le a ha

theorem nodup_inserted (h : Journal turns s) : (inserted turns).Nodup := by
  induction h with
  | start => exact .nil
  | @carry turns s h q ih =>
      rw [inserted_append]
      cases hnew : Turn.inserted? ⟨q, s⟩ with
      | none => simpa using ih
      | some id =>
          obtain ⟨_, _, _, _, -, hnumber, -, -⟩ := Turn.inserts_of_inserted? hnew
          refine List.nodup_append.mpr ⟨ih, List.nodup_singleton id, ?_⟩
          rintro old hold new hmem rfl
          obtain rfl := List.mem_singleton.mp hmem
          have hle : old ≤ s.lastArticle := h.inserted_le old hold
          rw [show old = s.lastArticle + 1 from hnumber] at hle
          omega

theorem notMem_deleted (h : Journal turns s) {q : Statement} {id : Int}
    (hnew : Turn.inserted? ⟨q, s⟩ = some id) : id ∉ deleted turns := by
  intro hold
  obtain ⟨_, _, _, _, -, hnumber, -, -⟩ := Turn.inserts_of_inserted? hnew
  have hle := h.deleted_le id hold
  rw [show id = s.lastArticle + 1 from hnumber] at hle
  omega

/-- The articles in the table are those that have been added and not been deleted. -/
theorem ids_eq (h : Journal turns s) :
    s.articles.map Article.id = (inserted turns).filter (· ∉ deleted turns) := by
  induction h with
  | start => rfl
  | @carry turns s h q ih =>
      have hnew : (Turn.inserted? ⟨q, s⟩).toList.filter (· ∉ deleted turns) =
          (Turn.inserted? ⟨q, s⟩).toList := by
        refine List.filter_eq_self.mpr fun id hid => ?_
        simpa using h.notMem_deleted (Option.mem_toList.mp hid)
      calc (q.after s).articles.map Article.id
        _ = (s.articles.map Article.id ++ (Turn.inserted? ⟨q, s⟩).toList).filter
              (· ∉ (Turn.deleted? ⟨q, s⟩).toList) := Turn.ids_after ⟨q, s⟩
        _ = ((inserted turns ++ (Turn.inserted? ⟨q, s⟩).toList).filter (· ∉ deleted turns)).filter
              (· ∉ (Turn.deleted? ⟨q, s⟩).toList) := by
          rw [ih, List.filter_append (inserted turns), hnew]
        _ = (inserted (turns ++ [⟨q, s⟩])).filter (· ∉ deleted (turns ++ [⟨q, s⟩])) := by
          rw [inserted_append, deleted_append, List.filter_filter]
          apply List.filter_congr
          intro id _
          rw [Bool.eq_iff_iff]
          simp [and_comm]

end Journal

end Weblog
