import Weblog.Http.Form
import Weblog.Http.MediaType
import Weblog.Payload.Reading
import Weblog.Principal
import Weblog.Reply.Writing
import Weblog.Service.Route
import Weblog.Store.Work

namespace Weblog

open Weblog.Text

/-- How passwords are hashed and compared. -/
structure PasswordScheme where
  hash : (salt : Bytes) → (cost : Nat) → (password : String) → Except Bcrypt.Error String
  verify : (password hash : String) → Except Bcrypt.Error Bool

def Bcrypt.scheme : PasswordScheme := ⟨Bcrypt.hash, Bcrypt.verify⟩

/-- What the service finds while it answers one request: the time, bytes that nobody can guess,
and a name for the request. -/
structure Moment where
  now : Instant
  salt : Bytes
  requestId : String

/-- The part of the service that all requests share. -/
structure Shared where
  tokens : TokenService
  passwords : PasswordScheme
  hashCost : Nat
  /-- The version of the sources. -/
  commit : String

/-- Work that answers a request or fails. -/
abbrev Handler := ExceptT RequestError Session Response

namespace Handler

/-- Goes on if the result is a success. -/
def ofExcept (toError : ε → RequestError) : Except ε α → ExceptT RequestError Session α
  | .ok a => pure a
  | .error e => throw (toError e)

/-- Work on the store whose refusals fail the request, in words that `toError` may choose. -/
def workWith (toError : StoreError → RequestError) (w : Work α) :
    ExceptT RequestError Session α :=
  ExceptT.mk do return (← w.run).mapError toError

/-- Work on the store whose refusals fail the request. -/
def work (w : Work α) : ExceptT RequestError Session α :=
  workWith StoreError.toRequestError w

/-- What has been looked up, or a failure for what is not there. -/
def found (message : String) : Option α → ExceptT RequestError Session α
  | some a => pure a
  | none => throw (.notFound message)

/-- The seconds of the clock, as tokens are checked against them. -/
def clock (m : Moment) : Nat := m.now.seconds.toNat

/-- The user for whom the request is made. -/
def principal (shared : Shared) (m : Moment) (r : Request) :
    ExceptT RequestError Session Principal :=
  ofExcept id (Principal.ofHeaders shared.tokens (clock m) (r.values "authorization"))

def parameter (name raw : String) : ExceptT RequestError Session String :=
  match parameter? raw with
  | some text => pure text
  | none => throw (.malformedPath name)

/-- A body may have this many bytes. -/
def bodyLimit : Nat := 2097152

/-- The first header for the type of the body names JSON. -/
def hasJsonBody (r : Request) : Bool :=
  match (r.values "content-type").head? with
  | some value => MediaType.isJson value
  | none => false

/-- The payload of a request, if it can be read. -/
def payload? (kind : PayloadKind α) (r : Request) : Option α :=
  if hasJsonBody r && r.body.length ≤ bodyLimit then Json.first? kind.wrapped? r.body else none

/-- The payload of a request, which must be free of violations. -/
def payload (kind : PayloadKind α) (r : Request) : ExceptT RequestError Session α :=
  match payload? kind r with
  | none => throw (.badRequest "Invalid JSON format")
  | some a =>
    match kind.violations a with
    | [] => pure a
    | violations => throw (.invalid violations)

/-- The number that a field of a query writes; it may be left out. -/
def number? : Option String → Option (Option Int)
  | none => some none
  | some text => (signed? 64 text).map some

/-- The part of a listing that a query asks for. -/
def listQuery? (query : String) : Option ListQuery := do
  let fields := Form.fields query
  let limit ← number? (← Form.single? fields "limit")
  let offset ← number? (← Form.single? fields "offset")
  return ⟨limit, offset, ← Form.single? fields "author"⟩

end Handler

end Weblog
