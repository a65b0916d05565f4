import Weblog.Proofs.Service.Reachability
import Weblog.Proofs.Slug.Shape
import Weblog.Proofs.Store.Operation

namespace Weblog

/-- Every stored slug has the shape of a slug, so that only its length can make it invalid. One
without a suffix keeps to the limit. One with a suffix does if and only if the slug of its title
leaves room for the suffix. -/
theorem stored_slug_valid_iff {s : Store} {past : List Store} (h : Store.History (s :: past))
    {a : Article} (ha : a ∈ s.articles) :
    Slug.IsWords a.slug.toList ∧
      (Slug.isValid a.slug = true ↔ a.slug.length ≤ Slug.maxLength) ∧
      ∃ title, Slug.isValid (Slug.ofTitle title) = true ∧
        (a.slug = Slug.ofTitle title ∨
          ∃ n, a.slug = Slug.withSuffix (Slug.ofTitle title) n ∧
            (Slug.isValid a.slug = true ↔
              (Slug.ofTitle title).length + 1 + n.repr.length ≤ Slug.maxLength)) := by
  obtain ⟨title, now, htitle, hslug⟩ := h.isCandidate s (List.mem_cons_self) a ha
  have hbase := Slug.isWords_ofTitle htitle
  have hvalid := Slug.isValid_ofTitle htitle
  rcases Slug.mem_candidates_iff.mp hslug with hslug | ⟨n, hslug, -⟩
  · rw [hslug]
    have hlength := iff_of_true hvalid (Slug.length_ofTitle_le title)
    exact ⟨hbase, hlength, title, hvalid, .inl rfl⟩
  · rw [hslug]
    have hwords := Slug.isWords_withSuffix hbase n
    have hlength := Slug.isValid_iff.trans (and_iff_right hwords)
    exact ⟨hwords, hlength, title, hvalid, .inr ⟨n, rfl, Slug.isValid_withSuffix_iff hbase n⟩⟩

namespace Sample

/-- A title of as many letters as a slug may have. -/
def longTitle : String := String.ofList (List.replicate Slug.maxLength 'a')

def registered : Store :=
  Operation.after (.createUser "alice" "a@b.co" "secret") moment.now .empty

/-- The store after one more article with the long title. -/
def again (s : Store) : Store :=
  Operation.after (.createArticle 1 ⟨longTitle, "d", "b"⟩) moment.now s

theorem history_registered : Store.History [registered, .empty] :=
  Store.History.start.perform _ _ fun _ hr => nomatch hr

theorem history_again {s : Store} {past : List Store} (h : Store.History (s :: past)) :
    Store.History (again s :: s :: past) :=
  h.perform _ _ fun _ hr => nomatch hr

theorem again_again : again (again registered) =
    store [article 1 longTitle longTitle, article 2 (Slug.withSuffix longTitle 1) longTitle] 2 := by
  have hfirst : again registered = store [article 1 longTitle longTitle] 1 := by decide +kernel
  rw [hfirst]
  decide +kernel

theorem mem_again_again :
    article 2 (Slug.withSuffix longTitle 1) longTitle ∈ (again (again registered)).articles := by
  rw [again_again]
  exact List.mem_cons_of_mem _ (List.mem_singleton_self _)

theorem maxLength_lt : ¬ (Slug.withSuffix longTitle 1).length ≤ Slug.maxLength := by
  rw [Slug.length_withSuffix, longTitle, String.length_ofList, List.length_replicate]
  decide

end Sample

open Sample in
theorem stored_slug_valid_iff_long :
    Slug.IsWords (Slug.withSuffix longTitle 1).toList ∧
      ¬ Slug.isValid (Slug.withSuffix longTitle 1) = true := by
  have h := stored_slug_valid_iff (history_again (history_again history_registered))
    mem_again_again
  exact ⟨h.1, fun hvalid => maxLength_lt (h.2.1.mp hvalid)⟩

open Sample in
theorem stored_slug_over_limit :
    Store.History [again (again registered), again registered, registered, .empty] ∧
      article 2 (Slug.withSuffix longTitle 1) longTitle ∈ (again (again registered)).articles ∧
      Slug.isValid (Slug.withSuffix longTitle 1) = false :=
  ⟨history_again (history_again history_registered), mem_again_again,
    Bool.eq_false_iff.mpr fun hvalid => maxLength_lt (Slug.isValid_iff.mp hvalid).2⟩

end Weblog
