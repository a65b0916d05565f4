import Weblog.Domain.Direction
import Weblog.Domain.Joining
import Weblog.Domain.MappingData
import Weblog.Domain.Punycode
import Weblog.Text.Utf8

namespace Weblog.Domain

open Weblog.Text

def mapping : List Entry := readTable mappingText
def known : List Entry := readTable knownText

/-- What a character becomes, if it may stand in a name. -/
def mapChar? (c : Char) : Option (List Char) :=
  if c.toNat < 0x80 then some [c.toLower]
  else if isIn known c then
    match mapping.find? (·.holds c) with
    | some e => some (e.imageOf c)
    | none => some [c]
  else none

/-- The characters of a name in one way of writing. -/
def mapAll? (cs : List Char) : Option (List Char) := do
  return normalize (← cs.mapM mapChar?).flatten

/-- What a part begins with that is written in ASCII for other characters. -/
def mark : List Char := ['x', 'n', '-', '-']

def isAscii (c : Char) : Bool := c.toNat < 0x80

/-- The part may stand in a name as it is. -/
def isPart (part : List Char) : Bool :=
  part.all (fun c => mapChar? c == some [c] && c != '.') && normalize part == part &&
    !part.head?.any (isIn (readTable markText)) && !mark.isPrefixOf part && joinersFit [] part

/-- A part with its characters in any script. -/
def expand? (part : List Char) : Option (List Char) :=
  if mark.isPrefixOf part then do
    let other ← if part.all isAscii then Punycode.decode? (part.drop mark.length) else none
    if isPart other && other.any (!isAscii ·) then some other else none
  else if isPart part then some part
  else none

/-- A part in ASCII. -/
def fold (part : List Char) : List Char :=
  if part.all isAscii then part else mark ++ Punycode.encode part

/-- A character that has a meaning of its own in an address. -/
def isForbidden (c : Char) : Bool :=
  c ≤ ' ' || c == '\x7f' || "%#/:<>?@[\\]^|".toList.contains c

/-- The form in ASCII of a name that is given in bytes. -/
def toAscii? (bytes : Bytes) : Option (List Char) := do
  let cs ← mapAll? (Utf8.decodeLossy bytes).toList
  let parts ← (splitAt '.' cs).mapM expand?
  let ascii := ['.'].intercalate (parts.map fold)
  if (!parts.any hasRight || parts.all keepsDirection) && !ascii.any isForbidden then some ascii
  else none

end Weblog.Domain
