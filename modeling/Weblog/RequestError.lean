import Weblog.Bcrypt.Hash
import Weblog.Http.Message
import Weblog.Ownership
import Weblog.Store.Error
import Weblog.Token
import Weblog.Validation

namespace Weblog

open Weblog.Json

inductive RequestError where
  | invalid (violations : List Violation)
  | badRequest (message : String)
  /-- The parameter stands for bytes that are no text. -/
  | malformedPath (parameter : String)
  | unauthorized (message : String)
  | forbidden (message : String)
  | notFound (message : String)
  | conflict (message : String)
  /-- The service fails, for a reason of its own. -/
  | internal (reason : String)
deriving Repr, DecidableEq

namespace RequestError

def text : RequestError → String
  | .invalid violations => "validation failed: " ++ describe violations
  | .badRequest message => message
  | .malformedPath parameter => s!"Invalid URL: Invalid UTF-8 in `{parameter}`"
  | .unauthorized message => message
  | .forbidden message => message
  | .notFound message => message
  | .conflict message => message
  | .internal reason => reason

def status : RequestError → Nat
  | .invalid _ => 400
  | .badRequest _ => 400
  | .malformedPath _ => 400
  | .unauthorized _ => 401
  | .forbidden _ => 403
  | .notFound _ => 404
  | .conflict _ => 409
  | .internal _ => 500

/-- The record of the violations. -/
def violationRecord (violations : List Violation) : Value :=
  .object [("errors", .array (violations.map fun v =>
    .object [("field", .string v.field), ("message", .string v.message)]))]

/-- A record with the error as its one field. -/
def errorRecord (message : String) : Value :=
  .object [("error", .string message)]

/-- What is told of an internal error. -/
def internalMessage : String := "Internal server error"

/-- The body of the answer: a record, but for a path that cannot be read. -/
def body : RequestError → Body
  | .invalid violations => .json (violationRecord violations)
  | .internal _ => .json (errorRecord internalMessage)
  | .malformedPath parameter => .text (text (.malformedPath parameter))
  | e => .json (errorRecord e.text)

/-- The answer to a request that fails. -/
def response (e : RequestError) : Response :=
  ⟨e.status, [], e.body⟩

end RequestError

/-- A token that does not do is its client's fault; one that cannot be signed is not. -/
def TokenError.toRequestError : TokenError → RequestError
  | .signing reason => .internal reason
  | e => .unauthorized e.message

def OwnershipError.toRequestError (e : OwnershipError) : RequestError :=
  match e with
  | .missing _ => .notFound e.message
  | .foreign _ => .forbidden e.message

def Bcrypt.Error.text (e : Bcrypt.Error) : String :=
  "bcrypt failure: " ++ e.message

def Bcrypt.Error.toRequestError (e : Bcrypt.Error) : RequestError :=
  .internal e.text

def StoreError.toRequestError : StoreError → RequestError
  | .notFound => .notFound "Resource not found"
  | .emptySlug => .invalid [⟨"title", "title must contain at least one letter or digit"⟩]
  | .conflict .email => .badRequest "User with this email already exists"
  | .conflict .username => .badRequest "User with this username already exists"
  | .conflict .slug => .conflict "Article with this title already exists"
  | .database e => .internal e.message

end Weblog
