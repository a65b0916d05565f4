import Weblog.Text.Split

namespace Weblog.Domain

open Weblog.Text

/-- Characters in steps of `step` from `first` to `last`, and the image of `first`. -/
structure Entry where
  first : Nat
  last : Nat
  step : Nat
  image : List Nat
deriving Repr, DecidableEq

/-- The value of a digit of base sixteen with capital letters. -/
def digitValue (c : Char) : Nat :=
  if c.isDigit then c.toNat - 0x30 else c.toNat - 0x37

def number (cs : List Char) : Nat :=
  cs.foldl (fun n c => 16 * n + digitValue c) 0

/-- What stands before the separator and after it; without one, nothing stands after it. -/
def halves (separator : Char) (cs : List Char) : List Char × List Char :=
  (splitFirst? separator cs).getD (cs, [])

/-- The entry that a word writes: a range of code points in base sixteen, a step after a slash, and
after an arrow the code points of an image, with points between them. -/
def Entry.ofWord (word : List Char) : Entry :=
  let (range, image) := halves '>' word
  let (range, step) := halves '/' range
  let (first, last) := halves '-' range
  { first := number first
    last := if last.isEmpty then number first else number last
    step := if step.isEmpty then 1 else number step
    image := ((splitAt '.' image).filter (!·.isEmpty)).map number }

/-- The entries that the lines of a table write. -/
def readTable (lines : List String) : List Entry :=
  lines.flatMap fun line => (splitAt ' ' line.toList).map Entry.ofWord

def Entry.holds (e : Entry) (c : Char) : Bool :=
  e.first ≤ c.toNat && c.toNat ≤ e.last && (c.toNat - e.first) % e.step == 0

/-- The table has an entry for the character. -/
def isIn (table : List Entry) (c : Char) : Bool :=
  table.any (·.holds c)

/-- The image of a character that the entry holds: an image of one character moves with it. -/
def Entry.imageOf (e : Entry) (c : Char) : List Char :=
  match e.image with
  | [n] => [Char.ofNat (n + (c.toNat - e.first))]
  | image => image.map Char.ofNat

end Weblog.Domain
