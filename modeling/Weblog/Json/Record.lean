import Weblog.Json.Number

/-!
Records read from JSON. A record with named fields is written as an object, or as an array of
the fields in their order. Members with other keys are passed over; a key of the record that
comes twice is an error.
-/

namespace Weblog.Json

/-- The value of each field, in the order of `names`, where the input gives one. In an array,
the last fields may be left out if `mayEndEarly`. -/
def fields? (names : List String) (mayEndEarly : Bool) (bytes : Bytes) :
    Option (List (Option Bytes)) :=
  match members? bytes with
  | some members =>
    if names.all fun name => members.countP (·.1 == name) ≤ 1 then
      some (names.map fun name => members.lookup name)
    else none
  | none =>
    match items? bytes with
    | some items =>
      if items.length = names.length ∨ (mayEndEarly = true ∧ items.length ≤ names.length) then
        some (items.map some ++ List.replicate (names.length - items.length) none)
      else none
    | none => none

/-- A field that is a string, empty where it is left out. -/
def stringOrEmpty? : Option Bytes → Option String
  | none => some ""
  | some bytes => string? bytes

/-- A field that is a string, null, or left out. -/
def optionalString? : Option Bytes → Option (Option String)
  | none => some none
  | some bytes => if isNull bytes then some none else (string? bytes).map some

/-- The list of what `read` finds in each item. -/
def list? (read : Bytes → Option α) (bytes : Bytes) : Option (List α) := do
  (← items? bytes).mapM read

/-- Reads a text that is one value with nothing but white space around it. -/
def document? (read : Bytes → Option α) (bytes : Bytes) : Option α :=
  if isDocument bytes then read bytes else none

/-- Reads the first value; what follows it is passed over. -/
def first? (read : Bytes → Option α) (bytes : Bytes) : Option α :=
  if (skip bytes).isSome then read bytes else none

/-- Every part of the first value can be kept: strings are text, numbers are finite, and no more
than `depth` brackets stand within each other. -/
def isPlain (depth : Nat) (bytes : Bytes) : Bool :=
  match (skipSpace bytes).head? with
  | none => false
  | some b =>
    if b = byte '"' then (string? bytes).isSome
    else if b = byte '-' ∨ isDigit b = true then (numeral? bytes).any (·.isFinite)
    else if b = byte '[' then
      match depth with
      | 0 => false
      | depth + 1 => (items? bytes).any (·.all (isPlain depth))
    else if b = byte '\x7b' then
      match depth with
      | 0 => false
      | depth + 1 => (members? bytes).any (·.all fun m => isPlain depth m.2)
    else (skip bytes).isSome

end Weblog.Json
