import Weblog.Domain.ClassData
import Weblog.Domain.Table

namespace Weblog.Domain

inductive Direction where
  | left
  | right
  | arabicLetter
  | arabicNumber
  | number
  /-- A sign that takes its direction from what stands around it. -/
  | neutral
  | mark
deriving Repr, DecidableEq

def rightTable : List Entry := readTable rightToLeftText
def arabicLetterTable : List Entry := readTable arabicLetterText
def arabicNumberTable : List Entry := readTable arabicNumberText
def numberTable : List Entry := readTable europeanNumberText
def nonspacingTable : List Entry := readTable nonspacingMarkText

def neutralTable : List Entry :=
  readTable (europeanSeparatorText ++ commonSeparatorText ++ europeanTerminatorText ++
    otherNeutralText ++ boundaryNeutralText)

/-- The direction of a character; most are written from left to right. -/
def direction (c : Char) : Direction :=
  if isIn numberTable c then .number
  else if isIn neutralTable c then .neutral
  else if isIn rightTable c then .right
  else if isIn arabicLetterTable c then .arabicLetter
  else if isIn arabicNumberTable c then .arabicNumber
  else if isIn nonspacingTable c then .mark
  else .left

/-- The characters make a name one that is written from right to left in part. -/
def hasRight (cs : List Char) : Bool :=
  cs.any fun c => [.right, .arabicLetter, .arabicNumber].contains (direction c)

/-- The direction of the last character that is not a mark. -/
def lastDirection? (ds : List Direction) : Option Direction :=
  ds.reverse.find? (· != .mark)

/-- The part keeps to one direction. -/
def keepsDirection (part : List Char) : Bool :=
  let ds := part.map direction
  match ds with
  | [] => true
  | .left :: _ =>
    ds.all [.left, .number, .neutral, .mark].contains &&
      (lastDirection? ds).any [.left, .number].contains
  | first :: _ =>
    [.right, .arabicLetter].contains first && ds.all (· != .left) &&
      (lastDirection? ds).any [.right, .arabicLetter, .number, .arabicNumber].contains &&
      !(ds.contains .number && ds.contains .arabicNumber)

end Weblog.Domain
