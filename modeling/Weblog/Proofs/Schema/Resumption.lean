import Mathlib.Data.List.Nodup
import Mathlib.Data.String.Basic
import Weblog.Proofs.Schema.Run

namespace Weblog.Schema

/-- The catalog with nothing but the table to record scripts in. -/
def Catalog.created : Catalog :=
  ⟨[⟨recordTable, [recordColumn, "applied_at"], []⟩], []⟩

/-- Scripts that are in the ascending order of their names, can be read, and can be run one after
another from the beginning. -/
structure Runnable (ms : List Migration) : Prop where
  sorted : ms.Pairwise fun a b => a.name < b.name
  readable : ∀ m ∈ ms, m.changes?.isSome = true
  definable : ((ms.flatMap Migration.definitions).foldlM Catalog.define .created).isSome = true

variable {ms done todo : List Migration}

theorem Runnable.name_notMem (hms : Runnable ms) (hsplit : done ++ todo = ms) {m : Migration}
    (hm : m ∈ todo) : m.name ∉ done.map (·.name) := by
  obtain ⟨-, -, hbetween⟩ := List.pairwise_append.mp (hsplit ▸ hms.sorted)
  intro hmem
  obtain ⟨m', hm', hname⟩ := List.mem_map.mp hmem
  exact absurd (hbetween m' hm' m hm) (hname ▸ lt_irrefl _)

theorem Runnable.count_eq_one (hms : Runnable ms) (hsplit : done ++ todo = ms) {m : Migration}
    (hm : m ∈ done) : (done.map (·.name)).count m.name = 1 := by
  obtain ⟨hdone, -, -⟩ := List.pairwise_append.mp (hsplit ▸ hms.sorted)
  have hnodup : (done.map (·.name)).Nodup := List.pairwise_map.mpr (hdone.imp ne_of_lt)
  exact List.count_eq_one_of_mem hnodup (List.mem_map_of_mem hm)

namespace Catalog

/-- Of the scripts, those that are done are recorded, each once, and no others; and the tables and
indexes are those that they define. -/
structure HasRun (ms : List Migration) (c : Catalog) (done : List Migration) : Prop where
  shape : (done.flatMap Migration.definitions).foldlM define created = some c.shape
  recorded : ∃ names, c.recorded? = some names ∧
    ∀ m ∈ ms, names.count m.name = (done.map (·.name)).count m.name

/-- The scripts that are done have been run, or no run has ever begun. -/
def IsReady (ms : List Migration) (c : Catalog) (done : List Migration) : Prop :=
  c = .blank ∧ done = [] ∨ c.HasRun ms done

variable {c c' : Catalog} {m : Migration}

theorem hasRun_created (ms : List Migration) : created.HasRun ms [] :=
  ⟨rfl, [], rfl, fun _ _ => rfl⟩

theorem HasRun.addRow (h : c.HasRun ms done) {name : String} {row : Row}
    (hrow : IsForeign ms name row) : (c.addRow name row).HasRun ms done := by
  obtain ⟨names, hnames, hcount⟩ := h.recorded
  refine ⟨(c.shape_addRow name row).symm ▸ h.shape, ?_⟩
  rw [recorded?_addRow, hnames]
  refine ⟨_, rfl, fun m hm => ?_⟩
  rw [List.count_append, hcount m hm]
  split
  · rename_i hname
    obtain ⟨other, hother, hforeign⟩ := hrow hname
    have hne : other ≠ m.name := fun h => hforeign (h ▸ List.mem_map_of_mem hm)
    simp [hother, hne]
  · rfl

theorem IsReady.addRow (h : c.IsReady ms done) {name : String} {row : Row}
    (hrow : IsForeign ms name row) : (c.addRow name row).IsReady ms done := by
  rcases h with ⟨rfl, hdone⟩ | h
  · exact .inl ⟨rfl, hdone⟩
  · exact .inr (h.addRow hrow)

theorem HasRun.define_record (h : c.HasRun ms done) : c.define recordDefinition = some c := by
  obtain ⟨names, hnames, -⟩ := h.recorded
  obtain ⟨t, ht, -⟩ := Option.bind_eq_some_iff.mp hnames
  rw [recordDefinition, define, ht]
  rfl

theorem IsReady.create (h : c.IsReady ms done) :
    ∃ c', c.define recordDefinition = some c' ∧ c'.HasRun ms done := by
  rcases h with ⟨rfl, rfl⟩ | h
  · exact ⟨created, rfl, hasRun_created ms⟩
  · exact ⟨c, h.define_record, h⟩

theorem HasRun.apply (h : c.HasRun ms done) (happly : c.apply m = some c') :
    c'.HasRun ms (done ++ [m]) := by
  obtain ⟨names, hnames, hcount⟩ := h.recorded
  constructor
  · rw [List.flatMap_append, List.flatMap_singleton, List.foldlM_append, h.shape,
      Option.bind_eq_bind, Option.bind_some]
    exact shape_of_apply happly
  · refine ⟨_, recorded?_of_apply happly hnames, fun m' hm' => ?_⟩
    rw [List.count_append, hcount m' hm', List.map_append, List.count_append]
    rfl

theorem HasRun.isSome_apply (h : c.HasRun ms done) (hms : Runnable ms)
    (hsplit : done ++ m :: todo = ms) : (c.apply m).isSome = true := by
  refine Catalog.isSome_apply (hms.readable m (hsplit ▸ by simp)) ?_
  have hall := hms.definable
  rw [← hsplit, List.flatMap_append, List.flatMap_cons, List.foldlM_append, h.shape,
    Option.bind_eq_bind, Option.bind_some, List.foldlM_append] at hall
  cases hmade : m.definitions.foldlM define c.shape with
  | none => rw [hmade] at hall; exact nomatch hall
  | some made => rfl

theorem HasRun.filter_eq (h : c.HasRun ms done) (hms : Runnable ms) (hsplit : done ++ todo = ms)
    {names : List String} (hnames : c.recorded? = some names) :
    ms.filter (fun m => !names.contains m.name) = todo := by
  obtain ⟨names', hnames', hcount⟩ := h.recorded
  obtain rfl : names = names' := Option.some.inj (hnames.symm.trans hnames')
  have hdone : ∀ m ∈ done, m.name ∈ names := by
    intro m hm
    have hcount' := hcount m (hsplit ▸ List.mem_append_left _ hm)
    rw [← List.count_pos_iff, hcount', List.count_pos_iff]
    exact List.mem_map_of_mem hm
  have hleft : ∀ m ∈ todo, m.name ∉ names := by
    intro m hm
    have hcount' := hcount m (hsplit ▸ List.mem_append_right _ hm)
    rw [← List.count_eq_zero, hcount', List.count_eq_zero]
    exact hms.name_notMem hsplit hm
  rw [← hsplit, List.filter_append,
    List.filter_eq_nil_iff.mpr fun m hm => by simpa using hdone m hm,
    List.filter_eq_self.mpr fun m hm => by simpa using hleft m hm, List.nil_append]

theorem HasRun.pending_eq (h : c.HasRun ms done) (hms : Runnable ms) (hsplit : done ++ todo = ms)
    {names : List String} (hnames : c.recorded? = some names) : pending ms names = todo := by
  rw [pending, h.filter_eq hms hsplit hnames]
  obtain ⟨-, htodo, -⟩ := List.pairwise_append.mp (hsplit ▸ hms.sorted)
  exact List.mergeSort_of_pairwise (htodo.imp fun hlt => decide_eq_true (le_of_lt hlt))

theorem HasRun.applyAll (h : c.HasRun ms done) (hms : Runnable ms) (hsplit : done ++ todo = ms) :
    ∃ c', c.applyAll todo = (.ok (todo.map (·.name)), c') ∧ c'.HasRun ms ms := by
  induction todo generalizing c done with
  | nil =>
      rw [List.append_nil] at hsplit
      exact ⟨c, rfl, hsplit ▸ h⟩
  | cons m todo ih =>
      obtain ⟨c₁, happly⟩ := Option.isSome_iff_exists.mp (h.isSome_apply hms hsplit)
      obtain ⟨c', hall, hrun⟩ := ih (h.apply happly) (by rw [← hsplit]; simp)
      refine ⟨c', ?_, hrun⟩
      rw [applyAll, happly]
      dsimp only
      rw [hall]
      rfl

theorem IsReady.migrate (h : c.IsReady ms done) (hms : Runnable ms) (hsplit : done ++ todo = ms) :
    ∃ c', c.migrate ms = (.ok (todo.map (·.name)), c') ∧ c'.HasRun ms ms := by
  obtain ⟨c₁, hcreate, hrun⟩ := h.create
  obtain ⟨names, hnames, -⟩ := hrun.recorded
  obtain ⟨c', hall, hdone⟩ := hrun.applyAll hms hsplit
  refine ⟨c', ?_, hdone⟩
  rw [recordDefinition] at hcreate
  rw [Catalog.migrate, hcreate]
  dsimp only
  rw [hnames]
  dsimp only
  rw [hrun.pending_eq hms hsplit hnames, hall]

theorem HasRun.migrate_eq (h : c.HasRun ms ms) (hms : Runnable ms) :
    c.migrate ms = (.ok [], c) := by
  obtain ⟨names, hnames, -⟩ := h.recorded
  have hcreate := h.define_record
  rw [recordDefinition] at hcreate
  rw [Catalog.migrate, hcreate]
  dsimp only
  rw [hnames]
  dsimp only
  rw [h.pending_eq hms (List.append_nil ms) hnames]
  rfl

end Catalog

/-- Where a run is that has begun where `done₀` had been run: which scripts it has run since, and
that the disk has nothing of a script before it has the whole. -/
inductive Progress (ms : List Migration) (done₀ : List Migration) : Run → Prop
  | idle {c : Catalog} (h : c.IsReady ms done₀) : Progress ms done₀ ⟨c, .idle⟩
  | created {c : Catalog} (h : c.HasRun ms done₀) : Progress ms done₀ ⟨c, .created⟩
  | between {c : Catalog} {since todo : List Migration} (hsplit : done₀ ++ since ++ todo = ms)
      (h : c.HasRun ms (done₀ ++ since)) :
      Progress ms done₀ ⟨c, .between todo (since.map (·.name))⟩
  | within {c work : Catalog} {m : Migration} {since todo : List Migration}
      {made left : List Change} (hsplit : done₀ ++ since ++ m :: todo = ms)
      (h : c.HasRun ms (done₀ ++ since)) (hchanges : m.changes? = some (made ++ left))
      (hwork : made.foldlM Catalog.change c = some work) :
      Progress ms done₀ ⟨c, .within m work left todo (since.map (·.name))⟩
  | finished {c : Catalog} {since : List Migration} (hsplit : done₀ ++ since = ms)
      (h : c.HasRun ms ms) : Progress ms done₀ ⟨c, .ended (.ok (since.map (·.name)))⟩
  | failed {c : Catalog} {m : Migration} {since todo : List Migration}
      (hsplit : done₀ ++ since ++ m :: todo = ms) (h : c.HasRun ms (done₀ ++ since)) :
      Progress ms done₀ ⟨c, .ended (.error (.failed m.name))⟩
  | notBegun {c : Catalog} {e : MigrationError} (he : e = .noRecord ∨ e = .unreadableRecord)
      (h : c.IsReady ms done₀) : Progress ms done₀ ⟨c, .ended (.error e)⟩

namespace Progress

variable {done₀ : List Migration} {r r' : Run}

theorem ready (h : Progress ms done₀ r) (hsplit₀ : done₀ ++ todo = ms) :
    ∃ done todo, done ++ todo = ms ∧ r.disk.IsReady ms done := by
  cases h with
  | idle h | notBegun _ h => exact ⟨done₀, todo, hsplit₀, h⟩
  | created h => exact ⟨done₀, todo, hsplit₀, .inr h⟩
  | between hsplit h | within hsplit h | failed hsplit h => exact ⟨_, _, hsplit, .inr h⟩
  | finished _ h => exact ⟨ms, [], List.append_nil ms, .inr h⟩

theorem addRow {c : Catalog} {phase : Phase} (h : Progress ms done₀ ⟨c, phase⟩)
    (hshut : phase.isShut = true) {name : String} {row : Row} (hrow : IsForeign ms name row) :
    Progress ms done₀ ⟨c.addRow name row, phase⟩ := by
  cases h with
  | idle h => exact .idle (h.addRow hrow)
  | created h => exact .created (h.addRow hrow)
  | between hsplit h => exact .between hsplit (h.addRow hrow)
  | within => exact nomatch hshut
  | finished hsplit h => exact .finished hsplit (h.addRow hrow)
  | failed hsplit h => exact .failed hsplit (h.addRow hrow)
  | notBegun he h => exact .notBegun he (h.addRow hrow)

theorem fail {c : Catalog} {phase : Phase} (h : Progress ms done₀ ⟨c, phase⟩) {e : MigrationError}
    (he : phase.failure? = some e) : Progress ms done₀ ⟨c, .ended (.error e)⟩ := by
  cases h with
  | idle h =>
      obtain rfl := Option.some.inj he
      exact .notBegun (.inl rfl) h
  | created h =>
      obtain rfl := Option.some.inj he
      exact .notBegun (.inr rfl) (.inr h)
  | @between _ _ todo hsplit h =>
      cases todo with
      | nil => exact nomatch he
      | cons m todo =>
          obtain rfl := Option.some.inj he
          exact .failed hsplit h
  | within hsplit h =>
      obtain rfl := Option.some.inj he
      exact .failed hsplit h
  | finished | failed | notBegun => exact nomatch he

theorem commit {c work : Catalog} {m : Migration} {applied : List String}
    (h : Progress ms done₀ ⟨c, .within m work [] todo applied⟩) :
    Progress ms done₀ ⟨work, .between todo (applied ++ [m.name])⟩ ∧ c.Keeps work := by
  cases h with
  | @within _ _ _ since _ made _ hsplit h hchanges hwork =>
      rw [List.append_nil] at hchanges
      have happly : c.apply m = some work := (Catalog.apply_of_changes hchanges).trans hwork
      have hrun : work.HasRun ms (done₀ ++ (since ++ [m])) := by
        rw [← List.append_assoc]
        exact h.apply happly
      have hnames : since.map (·.name) ++ [m.name] = (since ++ [m]).map (·.name) := by simp
      refine ⟨?_, Catalog.keeps_of_apply happly⟩
      rw [hnames]
      exact .between (by simpa using hsplit) hrun

/-- What one step of a run keeps. -/
theorem step (h : Progress ms done₀ r) (hms : Runnable ms) (hsplit₀ : done₀ ++ todo = ms)
    (hstep : Step ms r r') : Progress ms done₀ r' ∧ r.disk.Keeps r'.disk := by
  cases hstep with
  | create hcreate =>
      cases h with
      | idle h =>
          obtain ⟨c', hcreate', hrun⟩ := h.create
          obtain rfl := Option.some.inj (hcreate.symm.trans hcreate')
          exact ⟨.created hrun, Catalog.keeps_of_define hcreate⟩
  | read hread =>
      cases h with
      | created h =>
          rw [h.pending_eq hms hsplit₀ hread]
          have hnone : done₀ ++ [] = done₀ := List.append_nil done₀
          exact ⟨@between ms done₀ _ [] todo (hnone.symm ▸ hsplit₀) (hnone.symm ▸ h), .refl _⟩
  | begin hchanges =>
      cases h with
      | between hsplit h => exact ⟨@within ms done₀ _ _ _ _ _ [] _ hsplit h hchanges rfl, .refl _⟩
  | change hchange =>
      cases h with
      | within hsplit h hchanges hwork =>
          refine ⟨.within hsplit h (List.append_cons .. ▸ hchanges) ?_, .refl _⟩
          rw [List.foldlM_append, hwork, Option.bind_eq_bind, Option.bind_some, List.foldlM_cons,
            hchange]
          rfl
  | commit => exact h.commit
  | finish =>
      cases h with
      | between hsplit h =>
          rw [List.append_nil] at hsplit
          exact ⟨.finished hsplit (hsplit ▸ h), .refl _⟩
  | fail he => exact ⟨h.fail he, .refl _⟩
  | row hshut hrow => exact ⟨h.addRow hshut hrow, Catalog.keeps_addRow _ _ _⟩

/-- What a whole run keeps. -/
theorem of_steps {c : Catalog} (hc : c.IsReady ms done₀) (hms : Runnable ms)
    (hsplit₀ : done₀ ++ todo = ms) (h : Steps ms ⟨c, .idle⟩ r) :
    Progress ms done₀ r ∧ c.Keeps r.disk := by
  induction h with
  | refl => exact ⟨.idle hc, .refl _⟩
  | tail _ hstep ih =>
      obtain ⟨hprogress, hkeeps⟩ := ih.1.step hms hsplit₀ hstep
      exact ⟨hprogress, ih.2.trans hkeeps⟩

end Progress

/-- Wherever runs have been cut off, the first scripts have been run, and nothing else. -/
theorem Produced.ready {c : Catalog} (hc : Produced ms c) (hms : Runnable ms) :
    ∃ done todo, done ++ todo = ms ∧ c.IsReady ms done := by
  induction hc with
  | blank => exact ⟨[], ms, rfl, .inl ⟨rfl, rfl⟩⟩
  | run _ h ih =>
      obtain ⟨done, todo, hsplit, hready⟩ := ih
      exact (Progress.of_steps hready hms hsplit h).1.ready hsplit

end Weblog.Schema
