import Weblog.Store.Statement

/-!
Work on the store, one statement after another, where each next statement depends on what the
ones before were answered. Between two statements of one piece of work the store may serve other
work; when the work runs alone, it is a function on the store.
-/

namespace Weblog

/-- Work that ends with a result of the type `α`. -/
inductive Session (α : Type) where
  | done (a : α)
  | query (q : Statement) (next : Except DatabaseError q.Answer → Session α)

namespace Session

def bind : Session α → (α → Session β) → Session β
  | .done a, f => f a
  | .query q next, f => .query q fun r => (next r).bind f

instance : Monad Session where
  pure := .done
  bind := bind

/-- Work that runs alone on a store. -/
def run : Session α → Store → α × Store
  | .done a, s => (a, s)
  | .query q next, s =>
    match q.exec s with
    | .ok (r, s) => (next (.ok r)).run s
    | .error e => (next (.error e)).run s

/-- Work on a store that has been closed. -/
def runClosed : Session α → α
  | .done a => a
  | .query _ next => (next (.error .closed)).runClosed

def ask (q : Statement) : ExceptT StoreError Session q.Answer :=
  ExceptT.mk (.query q fun r => .done (r.mapError .database))

/-- Asks one statement whose refusals are told apart. -/
def attempt (q : Statement) : ExceptT StoreError Session (Except DatabaseError q.Answer) :=
  ExceptT.mk (.query q fun r => .done (.ok r))

theorem bind_query (q : Statement) (next : Except DatabaseError q.Answer → Session α)
    (f : α → Session β) :
    (Session.query q next >>= f) = .query q fun r => next r >>= f := rfl

theorem run_bind (m : Session α) (f : α → Session β) (s : Store) :
    (m >>= f).run s = (f (m.run s).1).run (m.run s).2 := by
  induction m generalizing s with
  | done a => rfl
  | query q next ih =>
    rw [bind_query, run, run]
    cases q.exec s with
    | ok r => exact ih _ _
    | error e => exact ih _ _

end Session

/-- A store that may have been closed. -/
structure Database where
  store : Store
  isOpen : Bool
deriving Repr, DecidableEq

/-- A new store. -/
def Database.empty : Database := ⟨.empty, true⟩

/-- Work that runs alone on a database. -/
def Session.runOn (work : Session α) (d : Database) : α × Database :=
  if d.isOpen then
    let (a, store) := work.run d.store
    (a, { d with store })
  else (work.runClosed, d)

end Weblog
