import Weblog.Proofs.Service.History
import Weblog.Proofs.Slug.Renewal
import Weblog.Proofs.Time.Order

namespace Weblog

open Session Handler

namespace Store

variable {s : Store}

/-- The article is by the author who has the name now; by anybody, where no name is given. -/
def IsBy (s : Store) (author : Option String) (a : Article) : Prop :=
  ∀ name ∈ author, name ≠ "" → ∃ u ∈ s.users, u.id = a.authorId ∧ u.username = name

/-- The rows are the articles of the author beside what is shown of their authors, each of them
once, in the decreasing order of the times at which they were created and of their numbers. -/
structure IsListing (s : Store) (author : Option String) (rows : List (Authored Article)) :
    Prop where
  mem_iff : ∀ a, a ∈ rows.map (·.thing) ↔ a ∈ s.articles ∧ s.IsBy author a
  authors : ∀ row ∈ rows, ∃ u ∈ s.users, u.id = row.thing.authorId ∧ row.author = u.profile
  once : (rows.map (·.thing)).Nodup
  decreasing : rows.Pairwise fun row next =>
    next.thing.createdAt.storedText < row.thing.createdAt.storedText ∨
      next.thing.createdAt.storedText = row.thing.createdAt.storedText ∧
        next.thing.id < row.thing.id
  newestFirst : (∀ row ∈ rows, row.thing.createdAt.IsDated) → rows.Pairwise fun row next =>
    next.thing.createdAt.Before row.thing.createdAt ∨
      next.thing.createdAt = row.thing.createdAt ∧ next.thing.id < row.thing.id

theorem Sound.mem_listing_iff (hs : s.Sound) (q : ListQuery) (a : Article) :
    a ∈ (s.listing q.onlyBy).map (·.thing) ↔ a ∈ s.articles ∧ s.IsBy q.author a := by
  have hname : ∀ {name}, name ∈ q.onlyBy ↔ name ∈ q.author ∧ name ≠ "" := by
    intro name
    rw [ListQuery.onlyBy, Option.mem_filter_iff]
    simp
  rw [((listing_perm_articlesBy q.onlyBy).map (·.thing)).mem_iff, List.mem_map]
  constructor
  · rintro ⟨row, hrow, rfl⟩
    obtain ⟨hrow, hauthor⟩ := List.mem_filter.mp hrow
    obtain ⟨hthing, u, hu, hid, hshown⟩ := of_mem_authoredArticles hrow
    refine ⟨hthing, fun name hname' hne => ⟨u, hu, hid, ?_⟩⟩
    have honly : name ∈ q.onlyBy := hname.mpr ⟨hname', hne⟩
    rw [hshown, Option.mem_def.mp honly] at hauthor
    exact beq_iff_eq.mp hauthor
  · rintro ⟨ha, hby⟩
    obtain ⟨row, hrow, rfl⟩ := List.mem_map.mp (hs.map_thing_articles.symm ▸ ha)
    refine ⟨row, List.mem_filter.mpr ⟨hrow, ?_⟩, rfl⟩
    obtain ⟨-, u, hu, hid, hshown⟩ := of_mem_authoredArticles hrow
    cases honly : q.onlyBy with
    | none => rfl
    | some name =>
        obtain ⟨hname', hne⟩ := hname.mp honly
        obtain ⟨v, hv, hvid, hvname⟩ := hby name hname' hne
        have hsame : u = v := eq_of_key_eq hs.userIds hu hv (hid.trans hvid.symm)
        rw [hshown, hsame]
        exact beq_iff_eq.mpr hvname

theorem Sound.isListing (hs : s.Sound) (q : ListQuery) :
    s.IsListing q.author (s.listing q.onlyBy) := by
  have honce := hs.nodup_listing q.onlyBy
  have hmem : ∀ row ∈ s.listing q.onlyBy, row ∈ s.authoredArticles := fun row hrow =>
    List.mem_of_mem_filter ((listing_perm_articlesBy q.onlyBy).mem_iff.mp hrow)
  -- no two rows have one number, so the order is strict
  have hdecreasing : (s.listing q.onlyBy).Pairwise fun row next =>
      next.thing.createdAt.storedText < row.thing.createdAt.storedText ∨
        next.thing.createdAt.storedText = row.thing.createdAt.storedText ∧
          next.thing.id < row.thing.id := by
    refine ((pairwise_listing q.onlyBy).and (List.pairwise_map.mp honce)).imp_of_mem ?_
    rintro row next hrow hnext ⟨hafter, hne⟩
    refine (notAfter_iff.mp hafter).imp_right fun ⟨htext, hid⟩ => ⟨htext, ?_⟩
    refine lt_of_le_of_ne hid fun heq => hne ?_
    exact (hs.article_eq (of_mem_authoredArticles (hmem next hnext)).1
      (of_mem_authoredArticles (hmem row hrow)).1 heq).symm
  refine ⟨hs.mem_listing_iff q, fun row hrow => ?_, honce, hdecreasing, fun hdated => ?_⟩
  · obtain ⟨-, u, hu, hid, hshown⟩ := of_mem_authoredArticles (hmem row hrow)
    exact ⟨u, hu, hid, congrArg Authored.author hshown⟩
  · refine hdecreasing.imp_of_mem fun hrow hnext h => ?_
    refine h.imp (Instant.storedText_lt_iff (hdated _ hnext) (hdated _ hrow)).mp ?_
    exact And.imp_left (Instant.eq_of_storedText_eq (hdated _ hnext) (hdated _ hrow))

end Store

theorem ListQuery.pageSize_eq (q : ListQuery) :
    q.pageSize = if 0 < q.limit.getD 0 then min (q.limit.getD 0) 100 else 20 := by
  rw [pageSize]
  cases q.limit <;> rfl

/-- Every page of the listing of an author is cut from one list, by the size and the offset that are
asked for, and comes with the length of that list; so pages of one size that follow one another are
the list. -/
theorem pages_tile_listing {s : Store} (hs : Reachable s) (author : Option String) :
    ∃ (rows : List (Authored Article)) (page : ListQuery → List (Authored Article)),
      s.IsListing author rows ∧
      (∀ q : ListQuery, q.author = author →
        outcome (Work.listArticles q) s = (.ok (page q, rows.length), s) ∧
        (∀ r : Request, listQuery? r.query = some q →
          outcome (Articles.list r) s = (.ok (.json 200 (ArticlePage.reply
            ⟨(page q).map Authored.articleView, rows.length⟩)), s)) ∧
        page q = (rows.drop (max (q.offset.getD 0) 0).toNat).take
          (if 0 < q.limit.getD 0 then min (q.limit.getD 0) 100 else 20 : Int).toNat) ∧
      ∀ size : Nat, 1 ≤ size → size ≤ 100 → ∀ n, rows.length ≤ n * size →
        (List.range n).flatMap (fun k => page ⟨some size, some (k * size : Nat), author⟩) =
          rows := by
  let rows := s.listing (ListQuery.onlyBy ⟨none, none, author⟩)
  refine ⟨rows, fun q => (rows.drop q.skipped.toNat).take q.pageSize.toNat,
    hs.sound.isListing ⟨none, none, author⟩, ?_, ?_⟩
  · rintro q rfl
    have hlength : rows.length = (s.articlesBy q.onlyBy).length :=
      (Store.listing_perm_articlesBy q.onlyBy).length_eq
    refine ⟨?_, fun r hr => ?_, by rw [← ListQuery.pageSize_eq]; rfl⟩
    · rw [hlength]
      rfl
    · rw [Articles.outcome_list hr s, hlength]
      rfl
  · intro size hpos hmost n henough
    have hpage : ∀ k : Nat, (rows.drop (ListQuery.skipped
        ⟨some size, some (k * size : Nat), author⟩).toNat).take
          (ListQuery.pageSize ⟨some size, some (k * size : Nat), author⟩).toNat =
        (rows.drop (k * size)).take size := by
      intro k
      have hsize : ListQuery.pageSize ⟨some size, some (k * size : Nat), author⟩ = size := by
        rw [ListQuery.pageSize_eq, Option.getD_some, if_pos (by omega), min_eq_left (by omega)]
      have hskipped : ListQuery.skipped ⟨some size, some (k * size : Nat), author⟩ =
          (k * size : Nat) := max_eq_left (Int.natCast_nonneg _)
      rw [hsize, hskipped, Int.toNat_natCast, Int.toNat_natCast]
    simp only [hpage]
    exact flatMap_pages rows henough

open Sample in
theorem pages_tile_listing_twins :
    let s := store [article 1 "hello" "Hello", article 2 "hello-1" "Hello"] 2
    Reachable s ∧ ∃ rows first second, s.IsListing (some "alice") rows ∧
      outcome (Work.listArticles ⟨some 1, some 0, some "alice"⟩) s = (.ok (first, 2), s) ∧
      outcome (Work.listArticles ⟨some 1, some 1, some "alice"⟩) s = (.ok (second, 2), s) ∧
      first ++ second = rows := by
  intro s
  have hs : Reachable s := served_published_again.reachable
  obtain ⟨rows, page, hrows, hpage, htiles⟩ := pages_tile_listing hs (some "alice")
  have hfirst := (hpage ⟨some 1, some 0, some "alice"⟩ rfl).1
  have hsecond := (hpage ⟨some 1, some 1, some "alice"⟩ rfl).1
  have hcount : (outcome (Work.listArticles ⟨some 1, some 0, some "alice"⟩) s).1.map (·.2) =
      .ok 2 := rfl
  rw [hfirst] at hcount
  have htwo : rows.length = 2 := Except.ok.inj hcount
  rw [htwo] at hfirst hsecond
  refine ⟨hs, rows, _, _, hrows, hfirst, hsecond, ?_⟩
  have hpages := htiles 1 (Nat.le_refl 1) (by omega) 2 (by omega)
  rwa [List.range_succ, List.flatMap_append, List.range_one, List.flatMap_singleton,
    List.flatMap_singleton] at hpages

end Weblog
