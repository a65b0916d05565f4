import Weblog.Proofs.Slug.Derivation

namespace Weblog

open Session

/-- The change that was asked for the row `current` succeeds on the article `a`: it is given the
slug, its fields are those of the changes or else its own, and the rest of the store is as it
was. -/
def Revises (s : Store) (current a : Article) (changes : ArticleChanges) (now : Instant)
    (slug : String) : Prop :=
  ∃ u ∈ s.users, u.id = a.authorId ∧
    outcome (Work.updateArticle current changes now) s =
      (.ok ⟨Store.changeArticle a slug changes now, u.profile⟩,
        s.withRevision a.id slug changes now)

theorem Revises.slug_eq {s : Store} {current a : Article} {changes : ArticleChanges}
    {now : Instant} {slug slug' : String} (h : Revises s current a changes now slug)
    (h' : Revises s current a changes now slug') : slug = slug' := by
  obtain ⟨u, -, -, houtcome⟩ := h
  obtain ⟨u', -, -, houtcome'⟩ := h'
  have hrow := Except.ok.inj (congrArg Prod.fst (houtcome.symm.trans houtcome'))
  exact congrArg (fun row : Authored Article => row.thing.slug) hrow

theorem Revises.not_refused {s s' : Store} {current a : Article} {changes : ArticleChanges}
    {now : Instant} {slug : String} {e : StoreError} (h : Revises s current a changes now slug) :
    outcome (Work.updateArticle current changes now) s ≠ (.error e, s') := by
  obtain ⟨u, -, -, houtcome⟩ := h
  rw [houtcome]
  exact fun heq => nomatch congrArg Prod.fst heq

/-- The title of every article has a slug. -/
def TitlesHaveSlugs (s : Store) : Prop :=
  ∀ a ∈ s.articles, Slug.ofTitle a.title ≠ ""

theorem Served.titlesHaveSlugs {s : Store} (hs : Served s) : TitlesHaveSlugs s := by
  have hfrom : ∃ readings, s.SlugsAreFrom readings := by
    refine hs.of_effects (I := fun s => ∃ readings, s.SlugsAreFrom readings)
      ⟨[], fun a ha => nomatch ha⟩ ?_
    rintro shared m r s x hsound ⟨readings, hfrom⟩ heffect
    exact ⟨_, heffect.slugsAreFrom hsound hfrom⟩
  obtain ⟨readings, hfrom⟩ := hfrom
  exact fun a ha => (hfrom a ha).1

/-- An article whose title is saved anew keeps its slug if and only if that slug is a candidate
and all candidates before it are held by other articles. Otherwise it gets another slug, or is
refused because no candidate is free. -/
theorem renewal_keeps_slug_iff {s : Store} (hs : Served s) {a : Article} (ha : a ∈ s.articles)
    {changes : ArticleChanges} (hsame : changes.title = some a.title) (now : Instant) :
    (Revises s a a changes now a.slug ↔
        ∃ tried rest,
          Slug.candidates (Slug.ofTitle a.title) now.seconds.toNat = tried ++ a.slug :: rest ∧
            ∀ slug ∈ tried, ∃ b ∈ s.articles, b.id ≠ a.id ∧ b.slug = slug) ∧
      (¬ Revises s a a changes now a.slug →
        (∃ slug ≠ a.slug, Revises s a a changes now slug) ∨
          outcome (Work.updateArticle a changes now) s = (.error (.conflict .slug), s)) := by
  have hsound := hs.reachable.sound
  obtain ⟨u, hu, hua⟩ := hsound.articleAuthors a ha
  have houtcome := Work.outcome_updateArticle_of_title hsound ha hu hua hsame
    (hs.titlesHaveSlugs a ha) now
  simp only [← Store.mem_slugsBut_some]
  cases hchoice : Slug.choice? (Slug.ofTitle a.title) now.seconds.toNat
      (s.slugsBut (some a.id)) with
  | none =>
      rw [hchoice] at houtcome
      refine ⟨⟨fun h => absurd houtcome h.not_refused, ?_⟩, fun _ => .inr houtcome⟩
      rintro ⟨tried, rest, hcandidates, -⟩
      have hmem : a.slug ∈ Slug.candidates (Slug.ofTitle a.title) now.seconds.toNat := by
        simp [hcandidates]
      exact absurd (Slug.choice?_eq_none_iff.mp hchoice _ hmem) (hsound.slug_notMem_slugsBut ha)
  | some slug =>
      rw [hchoice] at houtcome
      have hrevises : Revises s a a changes now slug := ⟨u, hu, hua, houtcome⟩
      refine ⟨⟨fun h => ?_, fun h => ?_⟩, fun h => .inl ⟨slug, ?_, hrevises⟩⟩
      · rw [h.slug_eq hrevises]
        exact (Slug.choice?_eq_some_iff.mp hchoice).2
      · have hown := Slug.choice?_eq_some_iff.mpr ⟨hsound.slug_notMem_slugsBut ha, h⟩
        rw [hchoice] at hown
        exact Option.some.inj hown ▸ hrevises
      · rintro rfl
        exact h hrevises

namespace Sample

theorem served_published_again :
    Served (store [article 1 "hello" "Hello", article 2 "hello-1" "Hello"] 2) :=
  store_publish_again ▸ served_published.respond app moment (publish "Hello")

theorem served_retracted : Served (store [article 2 "hello-1" "Hello"] 2) := by
  have hroute : Route.ofPath? (retract "hello").path = some (.article "hello") := by decide
  have hrun : ((app.respond moment (retract "hello")).run
      (store [article 1 "hello" "Hello", article 2 "hello-1" "Hello"] 2)).2 =
        store [article 2 "hello-1" "Hello"] 2 := by
    rw [store_asAlice hroute (by decide) rfl rfl]
    decide
  exact hrun ▸ served_published_again.respond app moment (retract "hello")

end Sample

open Sample in
theorem renewal_keeps_suffix :
    Revises (store [article 1 "hello" "Hello", article 2 "hello-1" "Hello"] 2)
      (article 2 "hello-1" "Hello") (article 2 "hello-1" "Hello") ⟨some "Hello", none, none⟩
      moment.now "hello-1" := by
  have hmem : article 2 "hello-1" "Hello" ∈
      (store [article 1 "hello" "Hello", article 2 "hello-1" "Hello"] 2).articles := by decide
  have hsame : (⟨some "Hello", none, none⟩ : ArticleChanges).title =
      some (article 2 "hello-1" "Hello").title := rfl
  have hkeeps := renewal_keeps_slug_iff served_published_again hmem hsame moment.now
  have hchoice : Slug.choice? (Slug.ofTitle "Hello") moment.now.seconds.toNat
      ((store [article 1 "hello" "Hello", article 2 "hello-1" "Hello"] 2).slugsBut (some 2)) =
        some "hello-1" := by decide
  obtain ⟨-, tried, rest, hcandidates, hheld⟩ := Slug.choice?_eq_some_iff.mp hchoice
  refine hkeeps.1.mpr ⟨tried, rest, hcandidates, ?_⟩
  exact fun slug hslug => Store.mem_slugsBut_some.mp (hheld slug hslug)

open Sample in
theorem renewal_drops_suffix :
    Served (store [article 2 "hello-1" "Hello"] 2) ∧
      outcome (Work.updateArticle (article 2 "hello-1" "Hello") ⟨some "Hello", none, none⟩
          moment.now) (store [article 2 "hello-1" "Hello"] 2) =
        (.ok ⟨article 2 "hello" "Hello", alice.profile⟩, store [article 2 "hello" "Hello"] 2) :=
  ⟨served_retracted, by decide +kernel⟩

theorem Sample.steps_renamed : Traffic.Steps ⟨store [article 1 "hello" "Hello"] 1, []⟩
    ⟨store [article 1 "new" "New"] 1, []⟩ := by
  have hrun : ((app.respond moment (rename "hello" "New")).run
      (store [article 1 "hello" "Hello"] 1)).2 = store [article 1 "new" "New"] 1 := by
    rw [store_asAlice route_rename (by decide) rfl rfl]
    decide +kernel
  exact hrun ▸ Traffic.steps_respond _ app moment (rename "hello" "New")

/-- A change without a title, asked for a row that was read when the store was another, keeps the
title and the slug if and only if the slug is still the one that was read. Otherwise the article is
given back the slug that was read, or the change is refused where another article has it by now.
The article is still by the same author. -/
theorem stale_revision_keeps_slug_iff {t t' : Traffic} (ht : t.Reachable) (h : t.Steps t')
    {r a : Article} (hr : r ∈ t.store.articles) (ha : a ∈ t'.store.articles) (hid : a.id = r.id)
    {changes : ArticleChanges} (htitle : changes.title = none) (hsome : changes.isEmpty = false)
    (now : Instant) :
    (a.authorId = r.authorId ∧ a.createdAt = r.createdAt) ∧
      (Revises t'.store r a changes now a.slug ↔ a.slug = r.slug) ∧
      ((∃ b ∈ t'.store.articles, b.id ≠ a.id ∧ b.slug = r.slug) →
        outcome (Work.updateArticle r changes now) t'.store =
          (.error (.conflict .slug), t'.store)) ∧
      ((¬ ∃ b ∈ t'.store.articles, b.id ≠ a.id ∧ b.slug = r.slug) →
        Revises t'.store r a changes now r.slug) := by
  have hsound := (ht.steps h).sound
  obtain ⟨u, hu, hua⟩ := hsound.articleAuthors a ha
  have houtcome := Work.outcome_updateArticle_of_no_title hsound ha hu hua hid.symm htitle hsome now
  rw [← Store.mem_slugsBut_some]
  have hfree : r.slug ∉ t'.store.slugsBut (some a.id) →
      Revises t'.store r a changes now r.slug := by
    intro hfree
    rw [if_neg hfree] at houtcome
    exact ⟨u, hu, hua, houtcome⟩
  refine ⟨h.evolves.article_eq ht.sound hr ha hid, ⟨?_, ?_⟩, ?_, hfree⟩
  · intro hkept
    by_cases hother : r.slug ∈ t'.store.slugsBut (some a.id)
    · rw [if_pos hother] at houtcome
      exact absurd houtcome hkept.not_refused
    · exact hkept.slug_eq (hfree hother)
  · intro hslug
    have hown := hsound.slug_notMem_slugsBut ha
    rw [hslug] at hown ⊢
    exact hfree hown
  · intro hother
    rw [houtcome, if_pos hother]

open Sample in
/-- One request gives the article a new title, and the other, which has read it before, does not
keep the slug that goes with it. -/
theorem stale_revision_loses_slug :
    ¬ Revises (store [article 1 "new" "New"] 1) (article 1 "hello" "Hello")
        (article 1 "new" "New") ⟨none, some "x", none⟩ moment.now "new" ∧
      Revises (store [article 1 "new" "New"] 1) (article 1 "hello" "Hello")
        (article 1 "new" "New") ⟨none, some "x", none⟩ moment.now "hello" := by
  have hstale := stale_revision_keeps_slug_iff (r := article 1 "hello" "Hello")
    (a := article 1 "new" "New") served_published.traffic steps_renamed (by decide) (by decide) rfl
    (rfl : (⟨none, some "x", none⟩ : ArticleChanges).title = none) rfl moment.now
  refine ⟨fun h => absurd (hstale.2.1.mp h) (by decide), hstale.2.2.2 ?_⟩
  decide

open Sample in
theorem stale_revision_restores_slug :
    Traffic.Reachable ⟨store [article 1 "hello" "Hello"] 1, []⟩ ∧
      Traffic.Steps ⟨store [article 1 "hello" "Hello"] 1, []⟩
        ⟨store [article 1 "new" "New"] 1, []⟩ ∧
      outcome (Work.updateArticle (article 1 "hello" "Hello") ⟨none, some "x", none⟩ moment.now)
          (store [article 1 "new" "New"] 1) =
        (.ok ⟨{ article 1 "hello" "New" with description := "x" }, alice.profile⟩,
          store [{ article 1 "hello" "New" with description := "x" }] 1) :=
  ⟨served_published.traffic, steps_renamed, by decide⟩

end Weblog
