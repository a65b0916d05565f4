import Weblog.Text.Blank
import Weblog.Text.Lowercase

namespace Weblog.Slug

open Weblog.Text

/-- A slug made from a title has at most this many characters. -/
def maxLength : Nat := 100

/-- Suffixes from 1 to this number are tried before the time of day. -/
def maxSuffix : Nat := 1000

/-- A lowercase letter or a digit of ASCII. -/
def isWordChar (c : Char) : Bool :=
  c.isLower || c.isDigit

def isHyphen (c : Char) : Bool :=
  c == '-'

/-- Keeps word characters and writes one hyphen for what blanks and hyphens stand between them;
`joined` says that no word character has come since the last hyphen. -/
def squeeze (joined : Bool) : List Char → List Char
  | [] => []
  | c :: rest =>
    if isWordChar c then c :: squeeze false rest
    else if (isBlank c || isHyphen c) && !joined then '-' :: squeeze true rest
    else squeeze joined rest

def trimHyphens (cs : List Char) : List Char :=
  dropEndWhile isHyphen (cs.dropWhile isHyphen)

/-- The slug of a title in lowercase. -/
def ofLower (cs : List Char) : List Char :=
  -- begun as if a hyphen stood before, so that none is written first
  dropEndWhile isHyphen ((trimHyphens (squeeze true cs)).take maxLength)

/-- The slug of a title, empty where the title has no letter or digit of ASCII. -/
def ofTitle (title : String) : String :=
  String.ofList (ofLower (lower title.toList))

def withSuffix (base : String) (n : Nat) : String :=
  base ++ "-" ++ n.repr

/-- The first of `base`, `base-1`, …, `base-1000` that is not taken, and `base-now` where all
of them are. -/
def firstFree (base : String) (taken : List String) (now : Nat) : String :=
  if base.isEmpty then ""
  else if !taken.contains base then base
  else
    match (List.range' 1 maxSuffix).find? fun n => !taken.contains (withSuffix base n) with
    | some n => withSuffix base n
    | none => withSuffix base now

def hasDoubleHyphen : List Char → Bool
  | c :: d :: rest => (isHyphen c && isHyphen d) || hasDoubleHyphen (d :: rest)
  | _ => false

/-- Word characters and single hyphens, begun and ended by a word character, within the length
of a slug. -/
def isValid (slug : String) : Bool :=
  let cs := slug.toList
  !cs.isEmpty && cs.length ≤ maxLength && cs.all (fun c => isWordChar c || isHyphen c) &&
    !cs.head?.any isHyphen && !cs.getLast?.any isHyphen && !hasDoubleHyphen cs

end Weblog.Slug
