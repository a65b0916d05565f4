import Mathlib.Logic.Relation
import Weblog.Proofs.Schema.Catalog

/-!
A run of the scripts, step by step. Each script is a transaction: its statements and the record of
its name are made on a copy of the catalog, which takes the place of the catalog on the disk when
all of them are made. So wherever a run is cut off, the disk has the scripts that are recorded, and
the next run goes on with the others.
-/

namespace Weblog.Schema

/-- What one statement of a transaction changes. -/
inductive Change where
  | define (definition : Definition)
  | record (name : String)

def Catalog.change (c : Catalog) : Change → Option Catalog
  | .define d => c.define d
  | .record name => some (c.addRow recordTable [(recordColumn, name)])

/-- The definitions that the script makes. -/
def Migration.definitions (m : Migration) : List Definition :=
  (definitions? m.script).getD []

/-- The changes of the transaction, if the script can be read. -/
def Migration.changes? (m : Migration) : Option (List Change) :=
  if (upSection m.script).isEmpty then none
  else (definitions? m.script).map fun ds => ds.map .define ++ [.record m.name]

namespace Catalog

variable {c c' : Catalog} {m : Migration}

theorem apply_eq_bind (c : Catalog) (m : Migration) :
    c.apply m = m.changes?.bind (·.foldlM change c) := by
  rw [apply, Migration.changes?]
  split
  · rfl
  · cases hds : definitions? m.script with
    | none => rfl
    | some ds =>
        rw [Option.map_some, Option.bind_some, List.foldlM_append, List.foldlM_map]
        rfl

theorem apply_of_changes {changes : List Change} (h : m.changes? = some changes) :
    c.apply m = changes.foldlM change c := by
  rw [apply_eq_bind, h, Option.bind_some]

theorem apply_eq_some (h : c.apply m = some c') :
    ∃ made, m.definitions.foldlM define c = some made ∧
      c' = made.addRow recordTable [(recordColumn, m.name)] := by
  rw [apply] at h
  split at h
  · exact nomatch h
  · obtain ⟨ds, hds, h⟩ := Option.bind_eq_some_iff.mp h
    obtain ⟨made, hmade, h⟩ := Option.bind_eq_some_iff.mp h
    refine ⟨made, ?_, (Option.some.inj h).symm⟩
    rwa [Migration.definitions, hds]

theorem keeps_of_defines {ds : List Definition} (h : ds.foldlM define c = some c') :
    c.Keeps c' := by
  induction ds generalizing c with
  | nil => exact Option.some.inj h ▸ .refl _
  | cons d ds ih =>
      obtain ⟨made, hmade, h⟩ := Option.bind_eq_some_iff.mp h
      exact (keeps_of_define hmade).trans (ih h)

theorem recorded?_of_defines {ds : List Definition} (h : ds.foldlM define c = some c')
    {names : List String} (hnames : c.recorded? = some names) : c'.recorded? = some names := by
  induction ds generalizing c with
  | nil => exact Option.some.inj h ▸ hnames
  | cons d ds ih =>
      obtain ⟨made, hmade, h⟩ := Option.bind_eq_some_iff.mp h
      exact ih h (recorded?_of_define hmade hnames)

theorem keeps_of_apply (h : c.apply m = some c') : c.Keeps c' := by
  obtain ⟨made, hmade, rfl⟩ := apply_eq_some h
  exact (keeps_of_defines hmade).trans (keeps_addRow _ _ _)

theorem recorded?_of_apply (h : c.apply m = some c') {names : List String}
    (hnames : c.recorded? = some names) : c'.recorded? = some (names ++ [m.name]) := by
  obtain ⟨made, hmade, rfl⟩ := apply_eq_some h
  rw [recorded?_addRow, recorded?_of_defines hmade hnames]
  simp [sameName]

theorem shape_of_apply (h : c.apply m = some c') :
    m.definitions.foldlM define c.shape = some c'.shape := by
  obtain ⟨made, hmade, rfl⟩ := apply_eq_some h
  rw [foldlM_define_shape, hmade, Option.map_some, shape_addRow]

theorem isSome_apply (hread : m.changes?.isSome = true)
    (hdefine : (m.definitions.foldlM define c.shape).isSome = true) :
    (c.apply m).isSome = true := by
  obtain ⟨changes, hchanges⟩ := Option.isSome_iff_exists.mp hread
  rw [foldlM_define_shape, Option.isSome_map] at hdefine
  obtain ⟨made, hmade⟩ := Option.isSome_iff_exists.mp hdefine
  rw [Migration.changes?] at hread
  split at hread
  · exact nomatch hread
  · rename_i hup
    rw [Option.isSome_map] at hread
    obtain ⟨ds, hds⟩ := Option.isSome_iff_exists.mp hread
    rw [Migration.definitions, hds, Option.getD_some] at hmade
    rw [apply, if_neg hup, hds]
    simp [hmade]

end Catalog

/-- The table in which scripts are recorded. -/
def recordDefinition : Definition :=
  .table recordTable [recordColumn, "applied_at"]

/-- How far a run has come. -/
inductive Phase where
  | idle
  /-- There is a table to record scripts in. -/
  | created
  /-- No transaction is open; these scripts are left, and the names of those that the run has
  applied are known. -/
  | between (todo : List Migration) (applied : List String)
  /-- The transaction of the script is open: what it has made of the catalog so far, and the changes
  that are left of it. -/
  | within (m : Migration) (work : Catalog) (left : List Change) (todo : List Migration)
      (applied : List String)
  | ended (result : Except MigrationError (List String))

/-- No transaction is open, so that others can write. -/
def Phase.isShut : Phase → Bool
  | within .. => false
  | _ => true

/-- What the run ends with if the database refuses the next thing that it does. -/
def Phase.failure? : Phase → Option MigrationError
  | idle => some .noRecord
  | created => some .unreadableRecord
  | between [] _ => none
  | between (m :: _) _ => some (.failed m.name)
  | within m .. => some (.failed m.name)
  | ended _ => none

/-- A run, and what is on the disk. -/
structure Run where
  disk : Catalog
  phase : Phase

/-- The row is none that records one of the scripts: it belongs to another table, or it records a
name that is none of theirs. -/
def IsForeign (ms : List Migration) (name : String) (row : Row) : Prop :=
  sameName recordTable name = true →
    ∃ other, row.lookup recordColumn = some other ∧ other ∉ ms.map (·.name)

/-- A run of the scripts goes on, fails, or finds a row that others have added. -/
inductive Step (ms : List Migration) : Run → Run → Prop
  | create {c c' : Catalog} (h : c.define recordDefinition = some c') :
      Step ms ⟨c, .idle⟩ ⟨c', .created⟩
  | read {c : Catalog} {recorded : List String} (h : c.recorded? = some recorded) :
      Step ms ⟨c, .created⟩ ⟨c, .between (pending ms recorded) []⟩
  | begin {c : Catalog} {m : Migration} {changes : List Change} (h : m.changes? = some changes)
      (todo : List Migration) (applied : List String) :
      Step ms ⟨c, .between (m :: todo) applied⟩ ⟨c, .within m c changes todo applied⟩
  | change {c work work' : Catalog} {next : Change} (h : work.change next = some work')
      (m : Migration) (left : List Change) (todo : List Migration) (applied : List String) :
      Step ms ⟨c, .within m work (next :: left) todo applied⟩
        ⟨c, .within m work' left todo applied⟩
  | commit (c work : Catalog) (m : Migration) (todo : List Migration) (applied : List String) :
      Step ms ⟨c, .within m work [] todo applied⟩ ⟨work, .between todo (applied ++ [m.name])⟩
  | finish (c : Catalog) (applied : List String) :
      Step ms ⟨c, .between [] applied⟩ ⟨c, .ended (.ok applied)⟩
  /-- The database refuses something; an open transaction is lost, with all that it has made. -/
  | fail {c : Catalog} {phase : Phase} {e : MigrationError} (h : phase.failure? = some e) :
      Step ms ⟨c, phase⟩ ⟨c, .ended (.error e)⟩
  /-- Others add a row, for which no transaction may be open. -/
  | row {c : Catalog} {phase : Phase} {name : String} {row : Row} (hshut : phase.isShut = true)
      (h : IsForeign ms name row) : Step ms ⟨c, phase⟩ ⟨c.addRow name row, phase⟩

/-- A run becomes another in any number of steps. -/
abbrev Steps (ms : List Migration) : Run → Run → Prop :=
  Relation.ReflTransGen (Step ms)

/-- The catalogs on the disks on which the scripts have been run any number of times, beginning
with a blank one. A run may have been cut off wherever it was. -/
inductive Produced (ms : List Migration) : Catalog → Prop
  | blank : Produced ms .blank
  | run {c : Catalog} {r : Run} (hc : Produced ms c) (h : Steps ms ⟨c, .idle⟩ r) :
      Produced ms r.disk

section

variable {ms : List Migration}

theorem steps_changes {work work' : Catalog} {changes : List Change}
    (h : changes.foldlM Catalog.change work = some work') (c : Catalog) (m : Migration)
    (todo : List Migration) (applied : List String) :
    Steps ms ⟨c, .within m work changes todo applied⟩ ⟨c, .within m work' [] todo applied⟩ := by
  induction changes generalizing work with
  | nil => exact Option.some.inj h ▸ .refl
  | cons next left ih =>
      obtain ⟨made, hmade, h⟩ := Option.bind_eq_some_iff.mp h
      exact .head (.change hmade m left todo applied) (ih h)

theorem steps_apply {c c' : Catalog} {m : Migration} (h : c.apply m = some c')
    (todo : List Migration) (applied : List String) :
    Steps ms ⟨c, .between (m :: todo) applied⟩ ⟨c', .between todo (applied ++ [m.name])⟩ := by
  rw [Catalog.apply_eq_bind] at h
  obtain ⟨changes, hchanges, h⟩ := Option.bind_eq_some_iff.mp h
  exact .head (.begin hchanges todo applied)
    ((steps_changes h c m todo applied).tail (.commit c c' m todo applied))

theorem steps_applyAll (c : Catalog) (todo : List Migration) (applied : List String) :
    Steps ms ⟨c, .between todo applied⟩
      ⟨(c.applyAll todo).2, .ended ((c.applyAll todo).1.map (applied ++ ·))⟩ := by
  induction todo generalizing c applied with
  | nil =>
      have hfinish : Step ms ⟨c, .between [] applied⟩ ⟨c, .ended (.ok (applied ++ []))⟩ :=
        (List.append_nil applied).symm ▸ .finish c applied
      exact .single hfinish
  | cons m todo ih =>
      cases happly : c.apply m with
      | none =>
          rw [Catalog.applyAll, happly]
          exact .single (.fail rfl)
      | some c' =>
          -- the function puts names in front, and the machine puts them behind
          have hnames : ((c'.applyAll todo).1.map (m.name :: ·)).map (applied ++ ·) =
              (c'.applyAll todo).1.map (applied ++ [m.name] ++ ·) := by
            cases (c'.applyAll todo).1 <;> simp [Except.map]
          rw [Catalog.applyAll, happly]
          dsimp only
          rw [hnames]
          exact (steps_apply happly todo applied).trans (ih c' (applied ++ [m.name]))

/-- Where nothing comes in between, the run is that of the whole. -/
theorem steps_migrate (ms : List Migration) (c : Catalog) :
    Steps ms ⟨c, .idle⟩ ⟨(c.migrate ms).2, .ended (c.migrate ms).1⟩ := by
  rw [Catalog.migrate]
  cases hcreate : c.define (.table recordTable [recordColumn, "applied_at"]) with
  | none => exact .single (.fail rfl)
  | some c' =>
      refine .head (.create hcreate) ?_
      dsimp only
      cases hread : c'.recorded? with
      | none => exact .single (.fail rfl)
      | some recorded =>
          refine .head (.read hread) ?_
          have hnames : (c'.applyAll (pending ms recorded)).1.map ([] ++ ·) =
              (c'.applyAll (pending ms recorded)).1 := by
            cases (c'.applyAll (pending ms recorded)).1 <;> rfl
          exact hnames ▸ steps_applyAll c' (pending ms recorded) []

end

end Weblog.Schema
