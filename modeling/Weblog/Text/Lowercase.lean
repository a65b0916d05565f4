import Weblog.Text.CaseData

/-!
Lowercase text after the Unicode standard, independent of language. A capital sigma at the end
of a word takes the final form, and a capital I with a dot becomes two characters; any other
character is mapped on its own.
-/

namespace Weblog.Text

/-- The lowercase form of a character, its surroundings left aside. -/
def lowerChar (c : Char) : List Char :=
  if c.toNat < 0x80 then [c.toLower]
  else if c = '\u0130' then ['i', '\u0307']
  else
    match caseRuns.find? (·.holds c.toNat) with
    | some run => [Char.ofNat (run.lower c.toNat)]
    | none => [c]

/-- The first character that matters to the case of a word is a letter with case. -/
def meetsCased (cs : List Char) : Bool :=
  match cs.find? fun c => !inRanges caseIgnorableRanges c.toNat with
  | some c => inRanges casedRanges c.toNat
  | none => false

/-- Lowercase form of a text that follows `before`, which is given in reverse. -/
def lowerAfter (before : List Char) : List Char → List Char
  | [] => []
  | c :: rest =>
    (if c = 'Σ' then [if meetsCased before && !meetsCased rest then 'ς' else 'σ']
     else lowerChar c) ++ lowerAfter (c :: before) rest

def lower (cs : List Char) : List Char :=
  lowerAfter [] cs

def lowercase (s : String) : String :=
  String.ofList (lower s.toList)

end Weblog.Text
