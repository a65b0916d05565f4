import Weblog.Json.Record

namespace Weblog.Token

open Weblog.Json

/-- The value is null or one that the reader takes. -/
def isNullOr (read : Bytes → Option α) (bytes : Bytes) : Bool :=
  isNull bytes || (read bytes).isSome

/-- The value of the last member with the key. -/
def lastMember? (members : List (String × Bytes)) (key : String) : Option Bytes :=
  members.reverse.lookup key

/-- The curves of keys. -/
def curves : List String := ["P-256", "P-384", "P-521", "Ed25519"]

/-- Kinds of keys: the fields of each that are strings, and whether it names a curve. -/
def keyKinds : List (String × List String × Bool) :=
  [("EC", ["x", "y"], true), ("RSA", ["n", "e"], false), ("oct", ["k"], false),
    ("OKP", ["x"], true)]

/-- A field that a key has in common with other kinds of keys has its type. -/
def isKeyField (field : String × Bytes) : Bool :=
  let (key, value) := field
  if ["use", "alg", "kid", "x5u", "x5t", "x5t#S256"].contains key then isNullOr string? value
  else if ["key_ops", "x5c"].contains key then isNullOr (list? string?) value
  else true

/-- A key as an object: its kind, the fields of that kind, and the fields of any key. -/
def isKey (bytes : Bytes) : Bool :=
  match members? bytes with
  | none => false
  | some members =>
    let text key := (members.lookup key).bind string?
    let once := members.all fun m => members.countP (·.1 == m.1) ≤ 1
    once && isPlain 126 bytes && members.all isKeyField &&
      keyKinds.any fun (kind, fields, hasCurve) =>
        text "kty" == some kind && fields.all (fun f => (text f).isSome) &&
          (!hasCurve || (text "crv").any curves.contains)

/-- Fields of a header that are strings or null. -/
def textFields : List String :=
  ["typ", "cty", "jku", "kid", "x5u", "x5t", "x5t#S256", "enc", "zip", "url", "nonce"]

/-- Fields of a header that are lists of strings or null. -/
def listFields : List String := ["x5c", "crit"]

/-- The name of an algorithm: a string, or the key of an object with one member that is null. -/
def algorithm? (bytes : Bytes) : Option String :=
  match string? bytes with
  | some name => some name
  | none =>
    match members? bytes with
    | some [(name, value)] => if isNull value then some name else none
    | _ => none

/-- The field has the type of its name. -/
def isHeaderField (field : String × Bytes) : Bool :=
  let (key, value) := field
  if key = "alg" then (algorithm? value).isSome
  else if textFields.contains key then isNullOr string? value
  else if listFields.contains key then isNullOr (list? string?) value
  else if key = "jwk" then isNull value || isKey value
  else (string? value).isSome

/-- The algorithm that a header names. -/
def headerAlgorithm? (bytes : Bytes) : Option String := do
  let members ← if isDocument bytes then members? bytes else none
  let registered := "alg" :: "jwk" :: textFields ++ listFields
  if registered.all (fun key => members.countP (·.1 == key) ≤ 1) ∧ members.all isHeaderField then
    (members.lookup "alg").bind algorithm?
  else none

end Weblog.Token
