import Mathlib.Data.List.Basic
import Weblog.Schema.Migration

namespace Weblog.Schema

theorem sameName_iff {a b : String} :
    sameName a b = true ↔ a.toList.map Char.toLower = b.toList.map Char.toLower :=
  beq_iff_eq

theorem sameName_congr {a b : String} (h : sameName a b = true) (c : String) :
    sameName a c = sameName b c := by
  rw [sameName, sameName, sameName_iff.mp h]

/-- The table as it was made. -/
def Table.bare (t : Table) : Table :=
  { t with rows := [] }

/-- The names that the rows of the table record. -/
def Table.recorded? (t : Table) : Option (List String) :=
  if t.columns.any (sameName recordColumn) then
    some (t.rows.filterMap (·.lookup recordColumn))
  else none

theorem Table.recorded?_append (t : Table) (row : Row) :
    Table.recorded? { t with rows := t.rows ++ [row] } =
      t.recorded?.map (· ++ (row.lookup recordColumn).toList) := by
  rw [recorded?, recorded?]
  split
  · rw [List.filterMap_append, Option.map_some, List.filterMap_cons, List.filterMap_nil]
    cases row.lookup recordColumn <;> rfl
  · rfl

namespace Catalog

variable {c c' : Catalog}

/-- The tables and indexes as they were made. -/
def shape (c : Catalog) : Catalog :=
  { c with tables := c.tables.map Table.bare }

theorem table?_shape (c : Catalog) (name : String) :
    c.shape.table? name = (c.table? name).map Table.bare := by
  rw [table?, shape, List.find?_map]
  rfl

theorem hasIndex_shape (c : Catalog) (name : String) : c.shape.hasIndex name = c.hasIndex name :=
  rfl

theorem define_shape (c : Catalog) (d : Definition) :
    c.shape.define d = (c.define d).map shape := by
  cases d with
  | table name columns =>
      rw [define, define, table?_shape, hasIndex_shape, Option.isSome_map]
      split
      · rfl
      · split
        · rfl
        · simp [shape, Table.bare]
  | index name table column =>
      rw [define, define, table?_shape, table?_shape, hasIndex_shape, Option.isSome_map]
      cases c.table? table with
      | none => rfl
      | some t =>
          show (if _ then _ else _) = Option.map shape (if _ then _ else _)
          split
          · rfl
          · split
            · rfl
            · show (if t.columns.any _ then _ else _) = _
              split
              · rfl
              · rfl

theorem foldlM_define_shape (c : Catalog) (ds : List Definition) :
    ds.foldlM define c.shape = (ds.foldlM define c).map shape := by
  induction ds generalizing c with
  | nil => rfl
  | cons d ds ih =>
      rw [List.foldlM_cons, List.foldlM_cons, define_shape]
      cases c.define d with
      | none => rfl
      | some c' => exact ih c'

@[simp] theorem shape_addRow (c : Catalog) (name : String) (row : Row) :
    (c.addRow name row).shape = c.shape := by
  rw [addRow, shape, shape, List.map_map]
  congr 1
  refine List.map_congr_left fun t _ => ?_
  by_cases h : sameName t.name name = true
  · simp [h, Table.bare]
  · simp [h, Table.bare]

/-- Every table is there still, with all of its rows in their order, and maybe more. -/
def Keeps (c c' : Catalog) : Prop :=
  ∀ t ∈ c.tables, ∃ t' ∈ c'.tables, t'.bare = t.bare ∧ t.rows <+: t'.rows

theorem Keeps.refl (c : Catalog) : c.Keeps c :=
  fun t ht => ⟨t, ht, rfl, List.prefix_refl _⟩

theorem Keeps.trans {c'' : Catalog} (h : c.Keeps c') (h' : c'.Keeps c'') : c.Keeps c'' := by
  intro t ht
  obtain ⟨t', ht', hbare, hrows⟩ := h t ht
  obtain ⟨t'', ht'', hbare', hrows'⟩ := h' t' ht'
  exact ⟨t'', ht'', hbare'.trans hbare, hrows.trans hrows'⟩

theorem keeps_addRow (c : Catalog) (name : String) (row : Row) : c.Keeps (c.addRow name row) := by
  intro t ht
  refine ⟨_, List.mem_map_of_mem ht, ?_⟩
  split
  · exact ⟨rfl, List.prefix_append _ _⟩
  · exact ⟨rfl, List.prefix_refl _⟩

theorem define_eq_some {d : Definition} (h : c.define d = some c') :
    ∃ tables indexes, c' = ⟨c.tables ++ tables, c.indexes ++ indexes⟩ := by
  cases d with
  | table name columns =>
      rw [define] at h
      split at h
      · exact ⟨[], [], by simpa using h.symm⟩
      · split at h
        · exact nomatch h
        · exact ⟨[⟨name, columns, []⟩], [], by simpa using h.symm⟩
  | index name table column =>
      obtain ⟨t, -, h⟩ := Option.bind_eq_some_iff.mp h
      split at h
      · exact nomatch h
      · split at h
        · exact ⟨[], [], by simpa using h.symm⟩
        · split at h
          · exact ⟨[], [⟨name, t.name, column⟩], by simpa using h.symm⟩
          · exact nomatch h

theorem keeps_of_define {d : Definition} (h : c.define d = some c') : c.Keeps c' := by
  obtain ⟨tables, indexes, rfl⟩ := define_eq_some h
  exact fun t ht => ⟨t, List.mem_append_left _ ht, rfl, List.prefix_refl _⟩

theorem recorded?_eq_bind (c : Catalog) :
    c.recorded? = (c.table? recordTable).bind Table.recorded? := rfl

theorem recorded?_of_define {d : Definition} (h : c.define d = some c') {names : List String}
    (hnames : c.recorded? = some names) : c'.recorded? = some names := by
  obtain ⟨tables, indexes, rfl⟩ := define_eq_some h
  obtain ⟨t, ht, hrows⟩ := Option.bind_eq_some_iff.mp hnames
  refine Option.bind_eq_some_iff.mpr ⟨t, ?_, hrows⟩
  rw [table?, List.find?_append]
  rw [table?] at ht
  rw [ht]
  rfl

theorem table?_addRow (c : Catalog) (name : String) (row : Row) (name' : String) :
    (c.addRow name row).table? name' = (c.table? name').map fun t =>
      if sameName t.name name then { t with rows := t.rows ++ [row] } else t := by
  rw [table?, addRow, List.find?_map, table?]
  congr 2
  funext t
  by_cases h : sameName t.name name = true <;> simp [h]

theorem recorded?_addRow (c : Catalog) (name : String) (row : Row) :
    (c.addRow name row).recorded? = c.recorded?.map fun names => names ++
      if sameName recordTable name then (row.lookup recordColumn).toList else [] := by
  rw [recorded?_eq_bind, recorded?_eq_bind, table?_addRow]
  cases ht : c.table? recordTable with
  | none => rfl
  | some t =>
      have hname : sameName t.name recordTable = true := by simpa using List.find?_some ht
      rw [← sameName_congr hname name]
      show Table.recorded? (if _ then _ else _) = t.recorded?.map _
      split
      · exact t.recorded?_append row
      · simp

end Catalog

end Weblog.Schema
