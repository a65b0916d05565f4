import Weblog.Domain.Composition

/-!
Signs that join letters or keep them apart. Such a sign may stand in a name only where it changes
how the letters around it look: after a sign that kills a vowel, or between letters that would
join without it.
-/

namespace Weblog.Domain

def joiner : Char := '\u200d'
def nonJoiner : Char := '\u200c'

/-- The class of marks that kill a vowel. -/
def viramaClass : Nat := 9

def joinsLeftTable : List Entry := readTable (joinsLeftText ++ joinsBothText)
def joinsRightTable : List Entry := readTable (joinsRightText ++ joinsBothText)
def transparentTable : List Entry := readTable transparentText

/-- The first character that is not transparent is in the table. -/
def meets (table : List Entry) (cs : List Char) : Bool :=
  match cs.find? fun c => !isIn transparentTable c with
  | some c => isIn table c
  | none => false

/-- Each sign has its place; `before` is what precedes, in reverse. -/
def joinersFit (before : List Char) : List Char → Bool
  | [] => true
  | c :: rest =>
    let afterVirama := before.head?.any fun b => markClass b == viramaClass
    let fits :=
      if c = joiner then afterVirama
      else if c = nonJoiner then
        afterVirama || (meets joinsLeftTable before && meets joinsRightTable rest)
      else true
    fits && joinersFit (c :: before) rest

end Weblog.Domain
