import Weblog.Json.Scan

/-!
A JSON value seen one level deep. An item of an array or of an object is given as the bytes from
where it begins to the end of the input; whoever reads it reads its first value.
-/

namespace Weblog.Json

/-- Items of an array that begin here, after its bracket or a comma. -/
def itemsFrom : (fuel : Nat) → Bytes → Option (List Bytes)
  | 0, _ => none
  | fuel + 1, bytes => do
    match skipSpace (← skip bytes) with
    | b :: rest =>
      if b = byte ',' then return bytes :: (← itemsFrom fuel rest)
      else if b = byte ']' then return [bytes]
      else none
    | [] => none

def items? (bytes : Bytes) : Option (List Bytes) :=
  match skipSpace bytes with
  | b :: rest =>
    if b = byte '[' then
      if (skipSpace rest).head? = some (byte ']') then some []
      else itemsFrom rest.length rest
    else none
  | [] => none

/-- A member that begins here, after a bracket or a comma: its key, and its value. -/
def member? (bytes : Bytes) : Option (String × Bytes) :=
  match skipSpace bytes with
  | b :: rest =>
    if b = byte '"' then do
      let (key, rest) ← text? rest
      match skipSpace rest with
      | c :: value => if c = byte ':' then some (key, value) else none
      | [] => none
    else none
  | [] => none

/-- Members of an object that begin here. -/
def membersFrom : (fuel : Nat) → Bytes → Option (List (String × Bytes))
  | 0, _ => none
  | fuel + 1, bytes => do
    let (key, value) ← member? bytes
    match skipSpace (← skip value) with
    | b :: rest =>
      if b = byte ',' then return (key, value) :: (← membersFrom fuel rest)
      else if b = byte '\x7d' then return [(key, value)]
      else none
    | [] => none

/-- The members of the object that the bytes begin with, each with its key. Keys are read as
strings, so one that is no text is refused. -/
def members? (bytes : Bytes) : Option (List (String × Bytes)) :=
  match skipSpace bytes with
  | b :: rest =>
    if b = byte '\x7b' then
      if (skipSpace rest).head? = some (byte '\x7d') then some []
      else membersFrom rest.length rest
    else none
  | [] => none

def string? (bytes : Bytes) : Option String :=
  match skipSpace bytes with
  | b :: rest => if b = byte '"' then (text? rest).map (·.1) else none
  | [] => none

def isNull (bytes : Bytes) : Bool :=
  (skipSpace bytes).head? == some (byte 'n')

def bool? (bytes : Bytes) : Option Bool :=
  match skipSpace bytes with
  | b :: _ => if b = byte 't' then some true else if b = byte 'f' then some false else none
  | [] => none

end Weblog.Json
