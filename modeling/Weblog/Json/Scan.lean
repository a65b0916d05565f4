import Weblog.Json.Text

/-!
Passing over a JSON value. A value that nobody reads is only scanned: its brackets match, its
words, numbers and strings are well formed, and that is all. The scan keeps the brackets that
are open in a list, so values may nest to any depth.
-/

namespace Weblog.Json

/-- A bracket that is open. -/
inductive Bracket where
  | array
  | object
deriving DecidableEq

/-- What has been read of a value, and so what may come next. -/
inductive Stage where
  /-- A value comes. -/
  | value
  /-- An array has been opened. -/
  | firstItem
  /-- An object has been opened. -/
  | firstKey
  /-- A comma in an object has been read. -/
  | key
  /-- A key has been read. -/
  | colon
  /-- A value has ended. -/
  | done
  /-- Within a string, which is a key or a value. -/
  | text (isKey : Bool)
  /-- After a backslash. -/
  | escape (isKey : Bool)
  /-- So many digits of base sixteen are to come. -/
  | hex (isKey : Bool) (left : Nat)
  /-- A sign has been read. -/
  | minus
  /-- A number that begins with a zero. -/
  | zero
  | integer
  /-- A decimal point has been read. -/
  | point
  | fraction
  /-- The mark of an exponent has been read. -/
  | exponent
  /-- The sign of an exponent has been read. -/
  | exponentSign
  | power
  /-- The rest of a word. -/
  | word (rest : Bytes)
deriving DecidableEq

def isSpace (b : UInt8) : Bool :=
  b == 0x20 || b == 0x0A || b == 0x0D || b == 0x09

def isDigit (b : UInt8) : Bool :=
  0x30 ≤ b && b ≤ 0x39

def isExponentMark (b : UInt8) : Bool :=
  b == byte 'e' || b == byte 'E'

/-- A number may end here. -/
def Stage.isNumberEnd : Stage → Bool
  | .zero | .integer | .fraction | .power => true
  | _ => false

/-- The byte carries the number on. -/
def Stage.carriesOn (stage : Stage) (b : UInt8) : Bool :=
  match stage with
  | .zero => b == byte '.' || isExponentMark b
  | .integer => isDigit b || b == byte '.' || isExponentMark b
  | .fraction => isDigit b || isExponentMark b
  | .power => isDigit b
  | _ => true

/-- The stage in view of the byte that comes: a number ends at a byte that is no part of it. -/
def Stage.before (stage : Stage) (b : UInt8) : Stage :=
  if stage.isNumberEnd && !stage.carriesOn b then .done else stage

/-- The stage after the first byte of a value. -/
def startValue (stack : List Bracket) (b : UInt8) : Option (Stage × List Bracket) :=
  if b = byte '"' then some (.text false, stack)
  else if b = byte '[' then some (.firstItem, .array :: stack)
  else if b = byte '\x7b' then some (.firstKey, .object :: stack)
  else if b = byte '-' then some (.minus, stack)
  else if b = byte '0' then some (.zero, stack)
  else if isDigit b then some (.integer, stack)
  else if b = byte 't' then some (.word [byte 'r', byte 'u', byte 'e'], stack)
  else if b = byte 'f' then some (.word [byte 'a', byte 'l', byte 's', byte 'e'], stack)
  else if b = byte 'n' then some (.word [byte 'u', byte 'l', byte 'l'], stack)
  else none

/-- The stage when a string has been closed. -/
def afterText (isKey : Bool) : Stage :=
  if isKey then .colon else .done

/-- The stage and the open brackets after one more byte. -/
def Stage.step (stage : Stage) (stack : List Bracket) (b : UInt8) :
    Option (Stage × List Bracket) :=
  match stage with
  | .value => if isSpace b then some (.value, stack) else startValue stack b
  | .firstItem =>
    if isSpace b then some (.firstItem, stack)
    else if b = byte ']' then some (.done, stack.tail)
    else startValue stack b
  | .firstKey =>
    if isSpace b then some (.firstKey, stack)
    else if b = byte '"' then some (.text true, stack)
    else if b = byte '\x7d' then some (.done, stack.tail)
    else none
  | .key =>
    if isSpace b then some (.key, stack)
    else if b = byte '"' then some (.text true, stack)
    else none
  | .colon =>
    if isSpace b then some (.colon, stack)
    else if b = byte ':' then some (.value, stack)
    else none
  | .done =>
    if isSpace b then some (.done, stack)
    else
      match stack with
      | .array :: outer =>
        if b = byte ',' then some (.value, stack)
        else if b = byte ']' then some (.done, outer)
        else none
      | .object :: outer =>
        if b = byte ',' then some (.key, stack)
        else if b = byte '\x7d' then some (.done, outer)
        else none
      | [] => none
  | .text isKey =>
    if b = byte '"' then some (afterText isKey, stack)
    else if b = byte '\\' then some (.escape isKey, stack)
    else if b < 0x20 then none
    else some (.text isKey, stack)
  | .escape isKey =>
    if b = byte 'u' then some (.hex isKey 4, stack)
    else if (escaped? b).isSome then some (.text isKey, stack)
    else none
  | .hex isKey left =>
    if (hexValue b).isSome then
      some (if left ≤ 1 then .text isKey else .hex isKey (left - 1), stack)
    else none
  | .minus =>
    if b = byte '0' then some (.zero, stack)
    else if isDigit b then some (.integer, stack)
    else none
  | .zero =>
    if b = byte '.' then some (.point, stack)
    else if isExponentMark b then some (.exponent, stack)
    else none
  | .integer =>
    if isDigit b then some (.integer, stack)
    else if b = byte '.' then some (.point, stack)
    else if isExponentMark b then some (.exponent, stack)
    else none
  | .point => if isDigit b then some (.fraction, stack) else none
  | .fraction =>
    if isDigit b then some (.fraction, stack)
    else if isExponentMark b then some (.exponent, stack)
    else none
  | .exponent =>
    if b = byte '+' ∨ b = byte '-' then some (.exponentSign, stack)
    else if isDigit b then some (.power, stack)
    else none
  | .exponentSign | .power => if isDigit b then some (.power, stack) else none
  | .word [] => none
  | .word (w :: rest) =>
    if b = w then some (if rest.isEmpty then .done else .word rest, stack) else none

/-- Reads on to the end of the value; the result is what follows it. -/
def scan (stage : Stage) (stack : List Bracket) : Bytes → Option Bytes
  | [] => if stack.isEmpty && (stage == .done || stage.isNumberEnd) then some [] else none
  | b :: rest =>
    -- a number is over only where a byte follows that does not belong to it
    let stage := stage.before b
    if stage == .done && stack.isEmpty then some (b :: rest)
    else
      match stage.step stack b with
      | some (stage, stack) => scan stage stack rest
      | none => none

/-- What follows the first value. -/
def skip (bytes : Bytes) : Option Bytes :=
  scan .value [] bytes

/-- What follows the white space. -/
def skipSpace (bytes : Bytes) : Bytes :=
  bytes.dropWhile isSpace

/-- The bytes are one value with nothing but white space around it. -/
def isDocument (bytes : Bytes) : Bool :=
  (skip bytes).any (·.all isSpace)

end Weblog.Json
