namespace Weblog.Text

/-- The code points with the property White_Space. -/
def blankCodes : List Nat :=
  [0x9, 0xA, 0xB, 0xC, 0xD, 0x20, 0x85, 0xA0, 0x1680, 0x2000, 0x2001, 0x2002, 0x2003, 0x2004,
   0x2005, 0x2006, 0x2007, 0x2008, 0x2009, 0x200A, 0x2028, 0x2029, 0x202F, 0x205F, 0x3000]

def isBlank (c : Char) : Bool :=
  blankCodes.contains c.toNat

/-- The list without the longest run at its end on which `p` holds. -/
def dropEndWhile (p : α → Bool) : List α → List α
  | [] => []
  | a :: rest =>
    match dropEndWhile p rest with
    | [] => if p a then [] else [a]
    | kept => a :: kept

/-- The text without the white space at its two ends. -/
def trim (cs : List Char) : List Char :=
  dropEndWhile isBlank (cs.dropWhile isBlank)

def isAllBlank (cs : List Char) : Bool :=
  cs.all isBlank

end Weblog.Text
