import Weblog.Proofs.Store.Listing
import Weblog.Proofs.Text.Utf8
import Weblog.Proofs.Time.Order

namespace Weblog

/-- Of two things, the first was created earlier, or at the same time with a number that is not
greater. -/
def NotCreatedAfter (created : α → Instant) (id : α → Int) (a b : α) : Prop :=
  (created a).Before (created b) ∨ created a = created b ∧ id a ≤ id b

namespace Store

variable {s : Store}

theorem before_of_notAfter {t t' : Instant} {id id' : Int} (ht : t.IsDated) (ht' : t'.IsDated)
    (h : notAfter (t.storedText, id) (t'.storedText, id') = true) :
    t.Before t' ∨ t = t' ∧ id ≤ id' := by
  rcases notAfter_iff.mp h with hless | ⟨hsame, hid⟩
  · exact .inl ((Instant.storedText_lt_iff ht ht').mp hless)
  · exact .inr ⟨Instant.eq_of_storedText_eq ht ht' hsame, hid⟩

end Store

/-- As bytes, the texts of times are in the order of the times, and no two times have one text. So
articles are listed as they were created, the newest first, and comments the oldest first, each of
them as often as it is there. -/
theorem stored_order_chronological :
    (∀ t t' : Instant, t.IsDated → t'.IsDated →
      (Utf8.encode t.storedText < Utf8.encode t'.storedText ↔ t.Before t') ∧
      (t.storedText = t'.storedText ↔ t = t')) ∧
    ∀ s : Store,
      (∀ author, (∀ row ∈ s.articlesBy author, row.thing.createdAt.IsDated) →
        (s.listing author).Perm (s.articlesBy author) ∧
        (s.listing author).Pairwise fun row next =>
          NotCreatedAfter (·.thing.createdAt) (·.thing.id) next row) ∧
      ∀ articleId, (∀ row ∈ s.authoredComments, row.thing.createdAt.IsDated) →
        (s.discussion articleId).Perm
          (s.authoredComments.filter (·.thing.articleId == articleId)) ∧
        (s.discussion articleId).Pairwise fun row next =>
          NotCreatedAfter (·.thing.createdAt) (·.thing.id) row next := by
  refine ⟨?_, ?_⟩
  · intro t t' ht ht'
    rw [Utf8.encode_lt_iff]
    refine ⟨Instant.storedText_lt_iff ht ht', Instant.eq_of_storedText_eq ht ht', ?_⟩
    rintro rfl
    rfl
  · intro s
    constructor
    · intro author hdated
      have hperm := s.listing_perm_articlesBy author
      refine ⟨hperm, (s.pairwise_listing author).imp_of_mem ?_⟩
      intro row next hrow hnext hafter
      exact Store.before_of_notAfter (hdated next (hperm.subset hnext))
        (hdated row (hperm.subset hrow)) hafter
    · intro articleId hdated
      have hperm := s.discussion_perm_comments articleId
      refine ⟨hperm, (s.pairwise_discussion articleId).imp_of_mem ?_⟩
      intro row next hrow hnext hafter
      exact Store.before_of_notAfter
        (hdated row (List.mem_of_mem_filter (hperm.subset hrow)))
        (hdated next (List.mem_of_mem_filter (hperm.subset hnext))) hafter

namespace Sample

/-- Articles and comments that were posted at these times, in this order. -/
def postedAt (times : List Instant) : Store where
  users := [⟨1, "alice", "a@b.co", "secret", "", "", ⟨0, 0⟩, ⟨0, 0⟩⟩]
  articles := times.mapIdx fun i t => ⟨i + 1, "hello", "Hello", "d", "b", 1, 0, t, t⟩
  comments := times.mapIdx fun i t => ⟨i + 1, "b", 1, 1, t, t⟩
  lastUser := 1
  lastArticle := times.length
  lastComment := times.length

end Sample

open Sample in
theorem stored_order_chronological_fractions :
    let nine : Instant := ⟨1700000000, 500000001⟩
    let three : Instant := ⟨1700000000, 500000000⟩
    let s := postedAt [nine, three, ⟨1700000000, 0⟩]
    three.IsDated ∧ nine.IsDated ∧ Utf8.encode three.storedText < Utf8.encode nine.storedText ∧
      ((∀ row ∈ s.articlesBy none, row.thing.createdAt.IsDated) ∧
        (s.listing none).Perm (s.articlesBy none) ∧ (s.articlesBy none).length = 3 ∧
        (s.listing none).Pairwise fun row next =>
          NotCreatedAfter (·.thing.createdAt) (·.thing.id) next row) ∧
      (∀ row ∈ s.authoredComments, row.thing.createdAt.IsDated) ∧
      (s.discussion 1).Perm (s.authoredComments.filter (·.thing.articleId == 1)) ∧
      (s.authoredComments.filter (·.thing.articleId == 1)).length = 3 ∧
      (s.discussion 1).Pairwise fun row next =>
        NotCreatedAfter (·.thing.createdAt) (·.thing.id) row next := by
  intro nine three s
  obtain ⟨htexts, hlists⟩ := stored_order_chronological
  have hthree : three.IsDated := by decide
  have hnine : nine.IsDated := by decide
  have hbefore : three.Before nine := by decide
  have harticles : ∀ row ∈ s.articlesBy none, row.thing.createdAt.IsDated := by decide
  have hcomments : ∀ row ∈ s.authoredComments, row.thing.createdAt.IsDated := by decide
  obtain ⟨hlisted, hlisting⟩ := (hlists s).1 none harticles
  obtain ⟨hshown, hdiscussion⟩ := (hlists s).2 1 hcomments
  exact ⟨hthree, hnine, (htexts three nine hthree hnine).1.mpr hbefore,
    ⟨harticles, hlisted, by decide, hlisting⟩, hcomments, hshown, by decide, hdiscussion⟩

end Weblog
