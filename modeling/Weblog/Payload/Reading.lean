import Weblog.Json.Record
import Weblog.Payload

/-!
Payloads read from JSON. A payload stands in a record with one field, which names its kind. In
a new thing a text that is left out is empty, so that validation names it; in a change it is a
field without a value.
-/

namespace Weblog

open Weblog.Json

/-- The value of the one field of a record. -/
def wrapped? (key : String) (read : Bytes → Option α) (bytes : Bytes) : Option α :=
  match fields? [key] false bytes with
  | some [some value] => read value
  | _ => none

def Registration.read? (bytes : Bytes) : Option Registration := do
  match ← fields? ["username", "email", "password"] true bytes with
  | [username, email, password] =>
    return ⟨← stringOrEmpty? username, ← stringOrEmpty? email, ← stringOrEmpty? password⟩
  | _ => none

def Credentials.read? (bytes : Bytes) : Option Credentials := do
  match ← fields? ["email", "password"] true bytes with
  | [email, password] => return ⟨← stringOrEmpty? email, ← stringOrEmpty? password⟩
  | _ => none

def AccountChanges.read? (bytes : Bytes) : Option AccountChanges := do
  match ← fields? ["username", "email", "password", "bio", "image"] false bytes with
  | [username, email, password, bio, image] =>
    return ⟨← optionalString? username, ← optionalString? email, ← optionalString? password,
      ← optionalString? bio, ← optionalString? image⟩
  | _ => none

def ArticleDraft.read? (bytes : Bytes) : Option ArticleDraft := do
  match ← fields? ["title", "description", "body"] true bytes with
  | [title, description, body] =>
    return ⟨← stringOrEmpty? title, ← stringOrEmpty? description, ← stringOrEmpty? body⟩
  | _ => none

def ArticleChanges.read? (bytes : Bytes) : Option ArticleChanges := do
  match ← fields? ["title", "description", "body"] false bytes with
  | [title, description, body] =>
    return ⟨← optionalString? title, ← optionalString? description, ← optionalString? body⟩
  | _ => none

def CommentDraft.read? (bytes : Bytes) : Option CommentDraft := do
  match ← fields? ["body"] true bytes with
  | [body] => return ⟨← stringOrEmpty? body⟩
  | _ => none

/-- A kind of payload: the field that holds it, how it is read, and what it violates. -/
structure PayloadKind (α : Type) where
  key : String
  read? : Bytes → Option α
  violations : α → List Violation

/-- The payload in its record. -/
def PayloadKind.wrapped? (kind : PayloadKind α) (bytes : Bytes) : Option α :=
  Weblog.wrapped? kind.key kind.read? bytes

def registration : PayloadKind Registration :=
  ⟨"user", Registration.read?, Registration.violations⟩

def credentials : PayloadKind Credentials :=
  ⟨"user", Credentials.read?, Credentials.violations⟩

def accountChanges : PayloadKind AccountChanges :=
  ⟨"user", AccountChanges.read?, AccountChanges.violations⟩

def articleDraft : PayloadKind ArticleDraft :=
  ⟨"article", ArticleDraft.read?, ArticleDraft.violations⟩

def articleChanges : PayloadKind ArticleChanges :=
  ⟨"article", ArticleChanges.read?, ArticleChanges.violations⟩

def commentDraft : PayloadKind CommentDraft :=
  ⟨"comment", CommentDraft.read?, CommentDraft.violations⟩

end Weblog
