import Mathlib.Data.String.Basic
import Weblog.Proofs.Store.Work

namespace Weblog

theorem flatMap_pages (l : List α) {size n : Nat} (h : l.length ≤ n * size) :
    (List.range n).flatMap (fun k => (l.drop (k * size)).take size) = l := by
  have hfront : ∀ n, (List.range n).flatMap (fun k => (l.drop (k * size)).take size) =
      l.take (n * size) := by
    intro n
    induction n with
    | zero => rw [Nat.zero_mul, List.take_zero, List.range_zero, List.flatMap_nil]
    | succ n ih =>
        rw [List.range_succ, List.flatMap_append, ih, List.flatMap_singleton, Nat.succ_mul,
          List.take_add]
  rw [hfront, List.take_of_length_le h]

/-- Where an article stands among articles. -/
def Article.key (a : Article) : String × Int :=
  (a.createdAt.storedText, a.id)

/-- Where a comment stands among comments. -/
def Comment.key (c : Comment) : String × Int :=
  (c.createdAt.storedText, c.id)

namespace Store

variable {s : Store} {a b c : String × Int}

theorem notAfter_iff : notAfter a b = true ↔ a.1 < b.1 ∨ a.1 = b.1 ∧ a.2 ≤ b.2 := by
  simp [notAfter]

theorem notAfter_trans (hab : notAfter a b = true) (hbc : notAfter b c = true) :
    notAfter a c = true := by
  rw [notAfter_iff] at hab hbc ⊢
  rcases hab with hab | ⟨hab, hid⟩ <;> rcases hbc with hbc | ⟨hbc, hid'⟩
  · exact .inl (lt_trans hab hbc)
  · exact .inl (hbc ▸ hab)
  · exact .inl (hab ▸ hbc)
  · exact .inr ⟨hab.trans hbc, Int.le_trans hid hid'⟩

theorem notAfter_total (a b : String × Int) : (notAfter a b || notAfter b a) = true := by
  rw [Bool.or_eq_true, notAfter_iff, notAfter_iff]
  rcases lt_trichotomy a.1 b.1 with h | h | h
  · exact .inl (.inl h)
  · rcases Int.le_total a.2 b.2 with hid | hid
    · exact .inl (.inr ⟨h, hid⟩)
    · exact .inr (.inr ⟨h.symm, hid⟩)
  · exact .inr (.inl h)

theorem eq_of_notAfter (hab : notAfter a b = true) (hba : notAfter b a = true) : a = b := by
  rw [notAfter_iff] at hab hba
  rcases hab with hab | ⟨hab, hid⟩ <;> rcases hba with hba | ⟨hba, hid'⟩
  · exact absurd hba (lt_asymm hab)
  · exact absurd hab (hba ▸ lt_irrefl _)
  · exact absurd hba (hab ▸ lt_irrefl _)
  · exact Prod.ext hab (Int.le_antisymm hid hid')

theorem mergeSort_eq_reverse {key : α → String × Int} {l : List α}
    (hl : (l.map key).Pairwise fun a b => notAfter a b = true)
    (hkey : ∀ a ∈ l, ∀ b ∈ l, key a = key b → a = b) :
    l.mergeSort (fun a b => notAfter (key b) (key a)) = l.reverse := by
  have hperm := List.mergeSort_perm l fun a b => notAfter (key b) (key a)
  have hsorted : (l.mergeSort fun a b => notAfter (key b) (key a)).Pairwise
      fun a b => notAfter (key b) (key a) = true :=
    @List.pairwise_mergeSort α (fun a b => notAfter (key b) (key a))
      (fun _ _ _ hab hbc => notAfter_trans hbc hab) (fun a b => notAfter_total (key b) (key a)) l
  have hreverse : l.reverse.Pairwise fun a b => notAfter (key b) (key a) = true :=
    List.pairwise_reverse.mpr (List.pairwise_map.mp hl)
  refine (hperm.trans (List.reverse_perm l).symm).eq_of_pairwise ?_ hsorted hreverse
  intro a b ha hb hba hab
  exact hkey a (hperm.subset ha) b (List.mem_reverse.mp hb) (eq_of_notAfter hab hba)

theorem perm_sortByKey (key : α → String × Int) (le : String × Int → String × Int → Bool)
    (l : List α) :
    (((l.map fun a => (key a, a)).mergeSort fun a b => le a.1 b.1).map (·.2)).Perm l := by
  have hperm := (List.mergeSort_perm (l.map fun a => (key a, a)) fun a b => le a.1 b.1).map (·.2)
  rwa [List.map_map, Function.comp_def, List.map_id'] at hperm

theorem pairwise_sortByKey (key : α → String × Int) (le : String × Int → String × Int → Bool)
    (htrans : ∀ a b c, le a b = true → le b c = true → le a c = true)
    (htotal : ∀ a b, (le a b || le b a) = true) (l : List α) :
    (((l.map fun a => (key a, a)).mergeSort fun a b => le a.1 b.1).map (·.2)).Pairwise
      fun a b => le (key a) (key b) = true := by
  have hsorted := @List.pairwise_mergeSort _ (fun (a b : (String × Int) × α) => le a.1 b.1)
    (fun _ _ _ => htrans _ _ _) (fun _ _ => htotal _ _) (l.map fun a => (key a, a))
  rw [List.pairwise_map]
  refine hsorted.imp_of_mem fun ha hb hab => ?_
  obtain ⟨row, -, rfl⟩ := List.mem_map.mp (List.mem_mergeSort.mp ha)
  obtain ⟨next, -, rfl⟩ := List.mem_map.mp (List.mem_mergeSort.mp hb)
  exact hab

theorem map_thing_withAuthor (authorId : α → Int) {rows : List α}
    (hrows : ∀ row ∈ rows, ∃ u ∈ s.users, u.id = authorId row) :
    (rows.filterMap (s.withAuthor authorId)).map (·.thing) = rows := by
  rw [List.map_filterMap]
  have hview : ∀ row ∈ rows, (s.withAuthor authorId row).map (·.thing) = some row := by
    intro row hrow
    have hsome := isSome_user?_iff.mpr (hrows row hrow)
    obtain ⟨u, hu⟩ := Option.isSome_iff_exists.mp hsome
    rw [withAuthor, hu]
    rfl
  rw [List.filterMap_congr hview, List.filterMap_some]

theorem Sound.map_thing_articles (hs : s.Sound) : s.authoredArticles.map (·.thing) = s.articles :=
  map_thing_withAuthor Article.authorId hs.articleAuthors

theorem Sound.find?_slug (hs : s.Sound) {a : Article} (ha : a ∈ s.articles) :
    ∃ author, s.authoredArticles.find? (·.thing.slug == a.slug) = some ⟨a, author⟩ := by
  have hthing : a ∈ s.authoredArticles.map (·.thing) := hs.map_thing_articles.symm ▸ ha
  obtain ⟨row, hrow, rfl⟩ := List.mem_map.mp hthing
  cases hfind : s.authoredArticles.find? (·.thing.slug == row.thing.slug) with
  | none => exact absurd (List.find?_eq_none.mp hfind row hrow) (by simp)
  | some found =>
      obtain ⟨hfound, -⟩ := of_mem_authoredArticles (List.mem_of_find?_eq_some hfind)
      have hslug : found.thing.slug = row.thing.slug := by simpa using List.find?_some hfind
      have hsame := List.inj_on_of_nodup_map hs.slugs hfound ha hslug
      exact ⟨found.author, congrArg some (congrArg (Authored.mk · found.author) hsame)⟩

theorem Sound.map_thing_comments (hs : s.Sound) : s.authoredComments.map (·.thing) = s.comments :=
  map_thing_withAuthor Comment.authorId hs.commentAuthors

theorem Sound.map_thing_listing (hs : s.Sound) :
    (s.listing none).map (·.thing) =
      s.articles.mergeSort fun a b => notAfter b.key a.key := by
  have hall : s.articlesBy none = s.authoredArticles := List.filter_eq_self.mpr fun _ _ => rfl
  rw [listing, hall, List.map_map, List.map_mergeSort (s := fun a b => notAfter b.key a.key),
    List.map_map]
  · exact congrArg (List.mergeSort · _) hs.map_thing_articles
  · intro row hrow row' hrow'
    obtain ⟨a, -, rfl⟩ := List.mem_map.mp hrow
    obtain ⟨a', -, rfl⟩ := List.mem_map.mp hrow'
    rfl

theorem Sound.map_thing_discussion (hs : s.Sound) (articleId : Int) :
    (s.discussion articleId).map (·.thing) =
      (s.comments.filter (·.articleId == articleId)).mergeSort
        fun a b => notAfter a.key b.key := by
  rw [discussion, List.map_map, List.map_mergeSort (s := fun a b => notAfter a.key b.key),
    List.map_map]
  · refine congrArg (List.mergeSort · _) ?_
    rw [← hs.map_thing_comments, List.filter_map]
    rfl
  · intro row hrow row' hrow'
    obtain ⟨c, -, rfl⟩ := List.mem_map.mp hrow
    obtain ⟨c', -, rfl⟩ := List.mem_map.mp hrow'
    rfl

theorem listing_perm_articlesBy (author : Option String) :
    (s.listing author).Perm (s.articlesBy author) :=
  perm_sortByKey articleKey (fun a b => notAfter b a) (s.articlesBy author)

theorem pairwise_listing (author : Option String) :
    (s.listing author).Pairwise fun a b => notAfter b.thing.key a.thing.key = true :=
  pairwise_sortByKey articleKey (fun a b => notAfter b a)
    (fun _ _ _ hab hbc => notAfter_trans hbc hab) (fun a b => notAfter_total b a) _

theorem discussion_perm_comments (articleId : Int) :
    (s.discussion articleId).Perm (s.authoredComments.filter (·.thing.articleId == articleId)) :=
  perm_sortByKey commentKey notAfter _

theorem pairwise_discussion (articleId : Int) :
    (s.discussion articleId).Pairwise fun a b => notAfter a.thing.key b.thing.key = true :=
  pairwise_sortByKey commentKey notAfter (fun _ _ _ => notAfter_trans) notAfter_total _

theorem Sound.nodup_listing (hs : s.Sound) (author : Option String) :
    ((s.listing author).map (·.thing)).Nodup := by
  have hall : (s.authoredArticles.map (·.thing)).Nodup :=
    hs.map_thing_articles.symm ▸ List.Nodup.of_map Article.id hs.articleIds
  refine ((listing_perm_articlesBy author).map (·.thing)).nodup_iff.mpr ?_
  exact hall.sublist (List.filter_sublist.map _)

/-- The rows are in the order in which they were created. -/
structure InOrder (s : Store) : Prop where
  articles : (s.articles.map Article.key).Pairwise fun a b => notAfter a b = true
  comments : (s.comments.map Comment.key).Pairwise fun a b => notAfter a b = true

theorem Sound.listing_perm (hs : s.Sound) :
    ((s.listing none).map (·.thing)).Perm s.articles := by
  rw [hs.map_thing_listing]
  exact List.mergeSort_perm _ _

theorem Sound.listing_eq (hs : s.Sound) (horder : s.InOrder) :
    (s.listing none).map (·.thing) = s.articles.reverse := by
  rw [hs.map_thing_listing]
  exact mergeSort_eq_reverse horder.articles fun _ ha _ hb hkey =>
    hs.article_eq ha hb (congrArg Prod.snd hkey)

theorem Sound.discussion_perm (hs : s.Sound) (articleId : Int) :
    ((s.discussion articleId).map (·.thing)).Perm
      (s.comments.filter (·.articleId == articleId)) := by
  rw [hs.map_thing_discussion]
  exact List.mergeSort_perm _ _

theorem Sound.discussion_eq (hs : s.Sound) (horder : s.InOrder) (articleId : Int) :
    (s.discussion articleId).map (·.thing) =
      s.comments.filter (·.articleId == articleId) := by
  rw [hs.map_thing_discussion]
  refine List.mergeSort_of_pairwise ?_
  exact (List.pairwise_map.mp horder.comments).sublist List.filter_sublist

end Store

end Weblog
