import Weblog.Schema.Catalog
import Weblog.Store.Session

/-!
The schema of the store, and how a database comes to have it. Each script is run once, as a whole
or not at all, and recorded by its name; a run takes up where the last one ended.
-/

namespace Weblog.Schema

structure Migration where
  name : String
  script : String
deriving Repr, DecidableEq

def usersScript : String := "\n".intercalate [
  "-- +migrate Up",
  "CREATE TABLE IF NOT EXISTS users (",
  "    id INTEGER PRIMARY KEY AUTOINCREMENT,",
  "    username TEXT NOT NULL UNIQUE,",
  "    email TEXT NOT NULL UNIQUE COLLATE NOCASE,",
  "    password_hash TEXT NOT NULL,",
  "    bio TEXT NOT NULL DEFAULT '',",
  "    image TEXT NOT NULL DEFAULT '',",
  "    created_at DATETIME NOT NULL DEFAULT CURRENT_TIMESTAMP,",
  "    updated_at DATETIME NOT NULL DEFAULT CURRENT_TIMESTAMP",
  ");",
  "",
  "CREATE INDEX IF NOT EXISTS idx_users_email ON users (email);",
  "CREATE INDEX IF NOT EXISTS idx_users_username ON users (username);",
  "",
  "-- +migrate Down",
  "DROP INDEX IF EXISTS idx_users_username;",
  "DROP INDEX IF EXISTS idx_users_email;",
  "DROP TABLE IF EXISTS users;"]

def articlesScript : String := "\n".intercalate [
  "-- +migrate Up",
  "CREATE TABLE IF NOT EXISTS articles (",
  "    id INTEGER PRIMARY KEY AUTOINCREMENT,",
  "    slug TEXT NOT NULL UNIQUE,",
  "    title TEXT NOT NULL,",
  "    description TEXT NOT NULL,",
  "    body TEXT NOT NULL,",
  "    author_id INTEGER NOT NULL REFERENCES users (id) ON DELETE CASCADE,",
  "    favorites_count INTEGER NOT NULL DEFAULT 0,",
  "    created_at DATETIME NOT NULL DEFAULT CURRENT_TIMESTAMP,",
  "    updated_at DATETIME NOT NULL DEFAULT CURRENT_TIMESTAMP",
  ");",
  "",
  "CREATE INDEX IF NOT EXISTS idx_articles_author_id ON articles (author_id);",
  "CREATE INDEX IF NOT EXISTS idx_articles_created_at ON articles (created_at);",
  "",
  "-- +migrate Down",
  "DROP INDEX IF EXISTS idx_articles_created_at;",
  "DROP INDEX IF EXISTS idx_articles_author_id;",
  "DROP TABLE IF EXISTS articles;"]

def commentsScript : String := "\n".intercalate [
  "-- +migrate Up",
  "CREATE TABLE IF NOT EXISTS comments (",
  "    id INTEGER PRIMARY KEY AUTOINCREMENT,",
  "    body TEXT NOT NULL,",
  "    author_id INTEGER NOT NULL REFERENCES users (id) ON DELETE CASCADE,",
  "    article_id INTEGER NOT NULL REFERENCES articles (id) ON DELETE CASCADE,",
  "    created_at DATETIME NOT NULL DEFAULT CURRENT_TIMESTAMP,",
  "    updated_at DATETIME NOT NULL DEFAULT CURRENT_TIMESTAMP",
  ");",
  "",
  "CREATE INDEX IF NOT EXISTS idx_comments_article_id ON comments (article_id);",
  "CREATE INDEX IF NOT EXISTS idx_comments_author_id ON comments (author_id);",
  "",
  "-- +migrate Down",
  "DROP INDEX IF EXISTS idx_comments_author_id;",
  "DROP INDEX IF EXISTS idx_comments_article_id;",
  "DROP TABLE IF EXISTS comments;"]

/-- The scripts that make the schema. -/
def migrations : List Migration :=
  [⟨"0001_create_users.sql", usersScript⟩, ⟨"0002_create_articles.sql", articlesScript⟩,
    ⟨"0003_create_comments.sql", commentsScript⟩]

/-- Why a run ends before all scripts are applied. -/
inductive MigrationError where
  | noRecord
  | unreadableRecord
  | failed (name : String)
deriving Repr, DecidableEq

def MigrationError.message : MigrationError → String
  | .noRecord => "Failed to create schema_migrations table"
  | .unreadableRecord => "Failed to read applied migrations"
  | .failed name => s!"Failed to apply migration {name}"

/-- The table in which applied scripts are recorded, and its column for their names. -/
def recordTable : String := "schema_migrations"
def recordColumn : String := "filename"

/-- The names of the scripts that have been applied. -/
def Catalog.recorded? (c : Catalog) : Option (List String) := do
  let t ← c.table? recordTable
  if t.columns.any (sameName recordColumn) then
    some (t.rows.filterMap (·.lookup recordColumn))
  else none

/-- Runs a script and records it, both or neither. -/
def Catalog.apply (c : Catalog) (m : Migration) : Option Catalog := do
  if (upSection m.script).isEmpty then none
  let c ← (← definitions? m.script).foldlM Catalog.define c
  return c.addRow recordTable [(recordColumn, m.name)]

/-- The scripts that are not recorded, by name. -/
def pending (migrations : List Migration) (recorded : List String) : List Migration :=
  (migrations.filter fun m => !recorded.contains m.name).mergeSort fun a b => a.name ≤ b.name

/-- Applies scripts one after another, up to one that fails: the names of those applied, or the
one that failed, and what has come of the catalog. -/
def Catalog.applyAll (c : Catalog) : List Migration → Except MigrationError (List String) × Catalog
  | [] => (.ok [], c)
  | m :: rest =>
    match c.apply m with
    | none => (.error (.failed m.name), c)
    | some c =>
      let (r, c) := c.applyAll rest
      (r.map (m.name :: ·), c)

/-- Applies the scripts that have not been applied yet. -/
def Catalog.migrate (c : Catalog) (migrations : List Migration) :
    Except MigrationError (List String) × Catalog :=
  match c.define (.table recordTable [recordColumn, "applied_at"]) with
  | none => (.error .noRecord, c)
  | some c =>
    match c.recorded? with
    | none => (.error .unreadableRecord, c)
    | some recorded => c.applyAll (pending migrations recorded)

/-- The catalog of every database in use: opening one migrates it. -/
def Catalog.current : Catalog :=
  (blank.migrate migrations).2

end Schema

/-- Migrates a database that has been opened before. -/
def Database.migrate (d : Database) : Except Schema.MigrationError (List String) :=
  if d.isOpen then (Schema.Catalog.current.migrate Schema.migrations).1 else .error .noRecord

end Weblog
