import Weblog.Schema.Definition

namespace Weblog.Schema

/-- Values of columns; a column without one has its default. -/
abbrev Row := List (String × String)

structure Table where
  name : String
  columns : List String
  rows : List Row
deriving Repr, DecidableEq

structure Index where
  name : String
  table : String
  column : String
deriving Repr, DecidableEq

structure Catalog where
  tables : List Table
  indexes : List Index
deriving Repr, DecidableEq

/-- The names are the same but for the case of letters. -/
def sameName (a b : String) : Bool :=
  a.toList.map Char.toLower == b.toList.map Char.toLower

namespace Catalog

def blank : Catalog := ⟨[], []⟩

def table? (c : Catalog) (name : String) : Option Table :=
  c.tables.find? fun t => sameName t.name name

def hasIndex (c : Catalog) (name : String) : Bool :=
  c.indexes.any fun i => sameName i.name name

/-- Carries out a definition. An index needs its table, with the column. -/
def define (c : Catalog) : Definition → Option Catalog
  | .table name columns =>
    if (c.table? name).isSome then some c
    else if c.hasIndex name then none
    else some { c with tables := c.tables ++ [⟨name, columns, []⟩] }
  | .index name table column => do
    let t ← c.table? table
    if (c.table? name).isSome then none
    else if c.hasIndex name then some c
    else if t.columns.any (sameName column) then
      some { c with indexes := c.indexes ++ [⟨name, t.name, column⟩] }
    else none

def addRow (c : Catalog) (name : String) (row : Row) : Catalog :=
  { c with tables := c.tables.map fun t =>
      if sameName t.name name then { t with rows := t.rows ++ [row] } else t }

end Catalog

end Weblog.Schema
