namespace Weblog

/-- A column whose values differ from row to row. -/
inductive UniqueField where
  | email
  | username
  | slug
deriving Repr, DecidableEq

/-- Why the database refuses a statement. -/
inductive DatabaseError where
  | closed
  /-- A row would repeat a value that must be unique. -/
  | repeated (field : UniqueField)
  /-- A row would name another row that is not there. -/
  | dangling
deriving Repr, DecidableEq

inductive StoreError where
  | notFound
  /-- No slug can be made from the title. -/
  | emptySlug
  | conflict (field : UniqueField)
  | database (e : DatabaseError)
deriving Repr, DecidableEq

def UniqueField.name : UniqueField → String
  | .email => "email"
  | .username => "username"
  | .slug => "slug"

def DatabaseError.message : DatabaseError → String
  | .closed => "attempted to acquire a connection on a closed pool"
  | .repeated .email => "UNIQUE constraint failed: users.email"
  | .repeated .username => "UNIQUE constraint failed: users.username"
  | .repeated .slug => "UNIQUE constraint failed: articles.slug"
  | .dangling => "FOREIGN KEY constraint failed"

def StoreError.message : StoreError → String
  | .notFound => "record not found"
  | .emptySlug => "title does not contain any characters usable in a slug"
  | .conflict field => s!"{field.name} already exists"
  | .database e => s!"database error: {e.message}"

end Weblog
