import Weblog.Proofs.Service.Desk

namespace Weblog

/-- No article is lost, repeated or overwritten, whoever loses a race. -/
structure Desk.KeepsArticles (d : Desk) : Prop where
  slugs : (d.store.articles.map Article.slug).Nodup
  /-- A publication adds one row, and no row had its slug at that statement. -/
  inserts : ∀ t ∈ d.journal, ∀ id ∈ t.inserted?, t.Inserts id
  /-- Only a change or a deletion that names the number of a row changes the row. -/
  spares : ∀ t ∈ d.journal, t.Spares
  /-- Each statement has been carried out for one of the requests. -/
  turns : d.journal.Perm (d.jobs.flatMap Job.past)
  /-- At most one statement of a request changes anything. -/
  once : ∀ job ∈ d.jobs, job.past.countP Turn.isChange ≤ 1
  /-- A request that is answered with a conflict has changed nothing. -/
  refused : ∀ job ∈ d.jobs, job.status? = some 409 → ∀ t ∈ job.past, t.after = t.store
  /-- The articles are those that have been added and not been deleted. -/
  ids : d.store.articles.map Article.id =
    (Journal.inserted d.journal).filter (· ∉ Journal.deleted d.journal)
  fresh : (Journal.inserted d.journal).Nodup

/-- However the statements of any number of requests come one after another, no article is lost,
repeated or overwritten. -/
theorem races_keep_articles (events : List Desk.Event) : (Desk.run events).KeepsArticles where
  slugs := (Desk.journal_run events).sound.slugs
  inserts _ _ _ hid := Turn.inserts_of_inserted? hid
  spares t _ := t.spares
  turns := Desk.perm_past_run events
  once job hjob := (Desk.isSingle_run events job hjob).countP_le
  refused job hjob := (Desk.isSingle_run events job hjob).unchanged
  ids := (Desk.journal_run events).ids_eq
  fresh := (Desk.journal_run events).nodup_inserted

namespace Sample

/-- Two articles with one title: both requests have chosen the slug before the first of them
publishes. -/
def race : List Desk.Event :=
  [.arrive ⟨app, moment, register⟩, .serve 0, .serve 0, .serve 0,
    .arrive ⟨app, moment, publish "Hello"⟩, .arrive ⟨app, moment, publish "Hello"⟩,
    .serve 1, .serve 2, .serve 1, .serve 2, .serve 1]

theorem run_race : (Desk.run race).store = store [article 1 "hello" "Hello"] 1 ∧
    (Desk.run race).jobs.map Job.status? = [some 201, some 201, some 409] := by
  have hwork : Visit.work ⟨app, moment, publish "Hello"⟩ = _ :=
    respond_asAlice route_publish (by decide) rfl rfl
  simp only [Desk.run, race, List.foldl_cons, List.foldl_nil, Desk.next_arrive, Visit.job, hwork]
  decide +kernel

end Sample

open Sample in
theorem races_keep_articles_twins :
    (Desk.run race).store = store [article 1 "hello" "Hello"] 1 ∧
      ∃ job ∈ (Desk.run race).jobs, job.status? = some 409 ∧
        ∀ t ∈ job.past, t.after = t.store := by
  obtain ⟨hstore, hstatus⟩ := run_race
  have hmem : some 409 ∈ (Desk.run race).jobs.map Job.status? := by
    rw [hstatus]
    decide
  obtain ⟨job, hjob, hconflict⟩ := List.mem_map.mp hmem
  exact ⟨hstore, job, hjob, hconflict, (races_keep_articles race).refused job hjob hconflict⟩

end Weblog
