import Weblog.Proofs.Service.Reachability

namespace Weblog

open Session

namespace Work

variable {s : Store}

theorem createArticle_conflict_iff (hs : s.Sound) (authorId : Int) (draft : ArticleDraft)
    (now : Instant) :
    (outcome (createArticle authorId draft now) s).1 = .error (.conflict .slug) ↔
      Slug.ofTitle draft.title ≠ "" ∧
        ∀ slug ∈ Slug.candidates (Slug.ofTitle draft.title) now.seconds.toNat,
          slug ∈ s.slugsBut none := by
  by_cases htitle : Slug.ofTitle draft.title = ""
  · rw [outcome_createArticle_of_no_slug htitle]
    simp [htitle]
  rw [and_iff_right htitle, ← Slug.choice?_eq_none_iff]
  by_cases hauthor : ∃ u ∈ s.users, u.id = authorId
  · obtain ⟨u, hu, rfl⟩ := hauthor
    rw [outcome_createArticle hs hu htitle]
    cases Slug.choice? (Slug.ofTitle draft.title) now.seconds.toNat (s.slugsBut none) with
    | none => simp
    | some slug => simp
  · rw [outcome_createArticle_of_no_author hauthor, if_neg htitle]
    cases Slug.choice? (Slug.ofTitle draft.title) now.seconds.toNat (s.slugsBut none) with
    | none => simp
    | some slug => simp

theorem updateArticle_conflict_iff (hs : s.Sound) {a : Article} (ha : a ∈ s.articles)
    (changes : ArticleChanges) (now : Instant) :
    (outcome (updateArticle a changes now) s).1 = .error (.conflict .slug) ↔
      ∃ title, changes.title = some title ∧ Slug.ofTitle title ≠ "" ∧
        ∀ slug ∈ Slug.candidates (Slug.ofTitle title) now.seconds.toNat,
          slug ∈ s.slugsBut (some a.id) := by
  obtain ⟨u, hu, hua⟩ := hs.articleAuthors a ha
  cases hnew : changes.title with
  | none =>
      cases hempty : changes.isEmpty with
      | true =>
          rw [updateArticle_of_isEmpty a hempty, outcome_read_article hs ha hu hua]
          simp
      | false =>
          rw [outcome_updateArticle_of_no_title hs ha hu hua rfl hnew hempty,
            if_neg (hs.slug_notMem_slugsBut ha)]
          simp
  | some title =>
      simp only [Option.some.injEq, exists_eq_left']
      by_cases htitle : Slug.ofTitle title = ""
      · rw [outcome_updateArticle_of_no_slug hnew htitle]
        simp [htitle]
      rw [and_iff_right htitle, ← Slug.choice?_eq_none_iff,
        outcome_updateArticle_of_title hs ha hu hua hnew htitle]
      cases Slug.choice? (Slug.ofTitle title) now.seconds.toNat (s.slugsBut (some a.id)) with
      | none => simp
      | some slug => simp

end Work

/-- What a new article and a new title are given is the first candidate that no other article in
the table has; where there is none, nothing is written. Both are refused for a slug in no other
case, so the slugs that begin like that of the title tell as much as all of them. -/
theorem allocation_exact {s : Store} (hs : Reachable s) (now : Instant) :
    (∀ u ∈ s.users, ∀ draft : ArticleDraft, Slug.ofTitle draft.title ≠ "" →
      outcome (Work.createArticle u.id draft now) s =
        match Slug.choice? (Slug.ofTitle draft.title) now.seconds.toNat (s.slugsBut none) with
        | some slug =>
          (.ok ⟨s.newArticle slug draft u.id now, u.profile⟩,
            s.withArticle (s.newArticle slug draft u.id now))
        | none => (.error (.conflict .slug), s)) ∧
      (∀ a ∈ s.articles, ∀ changes : ArticleChanges, ∀ title, changes.title = some title →
        Slug.ofTitle title ≠ "" → ∃ u ∈ s.users, u.id = a.authorId ∧
          outcome (Work.updateArticle a changes now) s =
            match Slug.choice? (Slug.ofTitle title) now.seconds.toNat (s.slugsBut (some a.id)) with
            | some slug =>
              (.ok ⟨Store.changeArticle a slug changes now, u.profile⟩,
                s.withRevision a.id slug changes now)
            | none => (.error (.conflict .slug), s)) ∧
      (∀ authorId : Int, ∀ draft : ArticleDraft,
        (outcome (Work.createArticle authorId draft now) s).1 = .error (.conflict .slug) ↔
          Slug.ofTitle draft.title ≠ "" ∧
            ∀ slug ∈ Slug.candidates (Slug.ofTitle draft.title) now.seconds.toNat,
              slug ∈ s.slugsBut none) ∧
      (∀ a ∈ s.articles, ∀ changes : ArticleChanges,
        (outcome (Work.updateArticle a changes now) s).1 = .error (.conflict .slug) ↔
          ∃ title, changes.title = some title ∧ Slug.ofTitle title ≠ "" ∧
            ∀ slug ∈ Slug.candidates (Slug.ofTitle title) now.seconds.toNat,
              slug ∈ s.slugsBut (some a.id)) ∧
      ∀ title, Slug.ofTitle title ≠ "" → ∀ except,
        Slug.firstFree (Slug.ofTitle title) (s.slugsLike (Slug.ofTitle title) except)
            now.seconds.toNat =
          Slug.firstFree (Slug.ofTitle title) (s.slugsBut except) now.seconds.toNat := by
  have hsound := hs.sound
  refine ⟨?_, ?_, ?_, ?_, ?_⟩
  · intro u hu draft htitle
    exact Work.outcome_createArticle hsound hu htitle now
  · intro a ha changes title hnew htitle
    obtain ⟨u, hu, hua⟩ := hsound.articleAuthors a ha
    exact ⟨u, hu, hua, Work.outcome_updateArticle_of_title hsound ha hu hua hnew htitle now⟩
  · exact fun authorId draft => Work.createArticle_conflict_iff hsound authorId draft now
  · exact fun a ha changes => Work.updateArticle_conflict_iff hsound ha changes now
  · exact fun title htitle except => s.firstFree_slugsLike htitle except now.seconds.toNat

open Sample in
theorem allocation_exact_second :
    outcome (Work.createArticle 1 ⟨"Hello", "d", "b"⟩ moment.now)
        (store [article 1 "hello" "Hello"] 1) =
      (.ok ⟨article 2 "hello-1" "Hello", alice.profile⟩,
        store [article 1 "hello" "Hello", article 2 "hello-1" "Hello"] 2) := by
  have hexact := (allocation_exact served_published.reachable moment.now).1 alice
    (List.mem_singleton_self _) ⟨"Hello", "d", "b"⟩ (by decide)
  have hchoice : Slug.choice? (Slug.ofTitle "Hello") moment.now.seconds.toNat
      ((store [article 1 "hello" "Hello"] 1).slugsBut none) = some "hello-1" := by decide
  rw [hchoice] at hexact
  exact hexact

end Weblog
