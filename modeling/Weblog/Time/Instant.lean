import Weblog.Time.Calendar
import Weblog.Text.Blank

/-!
Points in time, and their text after RFC 3339. Writing uses no more digits of a fraction than
needed, in groups of three. Reading is lenient: it takes numbers without their leading zeros,
blanks between the parts, a blank for the letter between date and time, any offset below a day,
and more digits of a fraction than count.
-/

namespace Weblog

open Weblog.Text

/-- A point in time: seconds since the first moment of 1970, and nanoseconds after that second.
A leap second is given by the second before it and 10 ^ 9 nanoseconds or more. -/
structure Instant where
  seconds : Int
  nanos : Nat
deriving Repr, DecidableEq

namespace Instant

def nanosPerSecond : Nat := 1000000000

def secondsPerDay : Int := 86400

/-- The least and the greatest year of a point in time. -/
def leastYear : Int := -262143
def greatestYear : Int := 262142

/-- The number in decimal, with zeros in front up to the width. -/
def padded (width n : Nat) : List Char :=
  let digits := Nat.toDigits 10 n
  List.replicate (width - digits.length) '0' ++ digits

/-- Four digits; with a sign where the year has more of them or lies before year 0. -/
def yearChars (year : Int) : List Char :=
  if 0 ≤ year ∧ year ≤ 9999 then padded 4 year.toNat
  else (if year < 0 then '-' else '+') :: padded 4 year.natAbs

/-- The fewest of 0, 3, 6 and 9 digits that lose nothing, after a point. -/
def fractionChars (nanos : Nat) : List Char :=
  if nanos = 0 then []
  else if nanos % 1000000 = 0 then '.' :: padded 3 (nanos / 1000000)
  else if nanos % 1000 = 0 then '.' :: padded 6 (nanos / 1000)
  else '.' :: padded 9 nanos

/-- The text in universal time, with `zone` as the mark of that. -/
def chars (zone : List Char) (t : Instant) : List Char :=
  let date := Date.ofDays (t.seconds / secondsPerDay)
  let second := (t.seconds % secondsPerDay).toNat
  let leap := nanosPerSecond ≤ t.nanos
  yearChars date.year ++ '-' :: padded 2 date.month.toNat ++ '-' :: padded 2 date.day.toNat ++
    'T' :: padded 2 (second / 3600) ++ ':' :: padded 2 (second / 60 % 60) ++
    ':' :: padded 2 (second % 60 + if leap then 1 else 0) ++
    fractionChars (if leap then t.nanos - nanosPerSecond else t.nanos) ++ zone

/-- The text that answers show. -/
def text (t : Instant) : String :=
  String.ofList (t.chars ['Z'])

/-- The text that the store keeps. -/
def storedText (t : Instant) : String :=
  String.ofList (t.chars ['+', '0', '0', ':', '0', '0'])

def digitOf (c : Char) : Nat :=
  c.toNat - 0x30

def ofDigitChars (cs : List Char) : Nat :=
  cs.foldl (fun n c => n * 10 + digitOf c) 0

/-- One digit or more at the front, at most so many. -/
def number? (most : Nat) (cs : List Char) : Option (Nat × List Char) :=
  let ds := (cs.take most).takeWhile Char.isDigit
  if ds.isEmpty then none else some (ofDigitChars ds, cs.drop ds.length)

def skipBlanks (cs : List Char) : List Char :=
  cs.dropWhile isBlank

/-- The character, after blanks. -/
def mark? (c : Char) (cs : List Char) : Option (List Char) :=
  match skipBlanks cs with
  | d :: rest => if d = c then some rest else none
  | [] => none

/-- A year: up to four digits, or any number of them after a sign. -/
def year? (cs : List Char) : Option (Int × List Char) :=
  match skipBlanks cs with
  | '-' :: rest => (number? rest.length rest).map fun (n, rest) => (-Int.ofNat n, rest)
  | '+' :: rest => (number? rest.length rest).map fun (n, rest) => (Int.ofNat n, rest)
  | cs => (number? 4 cs).map fun (n, rest) => (Int.ofNat n, rest)

/-- Up to two digits, after blanks. -/
def twoDigits? (cs : List Char) : Option (Nat × List Char) :=
  number? 2 (skipBlanks cs)

/-- The fraction of a second in nanoseconds: digits after the ninth do not count. -/
def fraction? (cs : List Char) : Option (Nat × List Char) :=
  match cs with
  | '.' :: rest =>
    let ds := (rest.take 9).takeWhile Char.isDigit
    if ds.isEmpty then none
    else some (ofDigitChars ds * Nat.pow 10 (9 - ds.length), rest.dropWhile Char.isDigit)
  | _ => some (0, cs)

/-- The offset from universal time in seconds, and what follows it. -/
def offset? (cs : List Char) : Option (Int × List Char) :=
  match cs with
  | a :: b :: c :: rest =>
    if a.toUpper = 'U' ∧ b.toUpper = 'T' ∧ c.toUpper = 'C' then some (0, rest)
    else signed cs
  | _ => signed cs
where
  signed : List Char → Option (Int × List Char)
    | 'Z' :: rest => some (0, rest)
    | 'z' :: rest => some (0, rest)
    | sign :: h :: h' :: rest =>
      if (sign = '+' ∨ sign = '-' ∨ sign = '\u2212') ∧ h.isDigit ∧ h'.isDigit then
        match rest.dropWhile fun c => c = ':' || isBlank c with
        | m :: m' :: rest =>
          if m.isDigit ∧ m'.isDigit ∧ digitOf m < 6 then
            let seconds : Int :=
              (digitOf h * 10 + digitOf h') * 3600 + (digitOf m * 10 + digitOf m') * 60
            if seconds < secondsPerDay then
              some (if sign = '+' then seconds else -seconds, rest)
            else none
          else none
        | _ => none
      else none
    | _ => none

/-- The day is in the calendar and within the years that are counted. -/
def isCounted (date : Date) : Bool :=
  date.isReal && leastYear ≤ date.year && date.year ≤ greatestYear

/-- The day of a number is within the years that are counted. -/
def isCountedDay (days : Int) : Bool :=
  isCounted (Date.ofDays days)

def ofChars? (cs : List Char) : Option Instant := do
  let (year, cs) ← year? cs
  let (month, cs) ← twoDigits? (← mark? '-' cs)
  let (day, cs) ← twoDigits? (← mark? '-' cs)
  let cs ← match cs with
    | c :: rest => if c = 'T' ∨ c = 't' ∨ c = ' ' then some rest else none
    | [] => none
  let (hour, cs) ← twoDigits? cs
  let (minute, cs) ← twoDigits? (← mark? ':' cs)
  let (second, cs) ← twoDigits? (← mark? ':' cs)
  let (nanos, cs) ← fraction? cs
  let (offset, cs) ← offset? (skipBlanks cs)
  let date : Date := ⟨year, month, day⟩
  if isCounted date ∧ hour < 24 ∧ minute < 60 ∧ second ≤ 60 ∧ (skipBlanks cs).isEmpty then
    -- a leap second is the second before it with more nanoseconds than one has
    let leap := second = 60
    let seconds := date.toDays * secondsPerDay + (hour * 3600 + minute * 60 : Nat) +
      (if leap then 59 else second : Nat) - offset
    if isCountedDay (seconds / secondsPerDay) then
      some ⟨seconds, if leap then nanos + nanosPerSecond else nanos⟩
    else none
  else none

def ofText? (s : String) : Option Instant :=
  ofChars? s.toList

end Instant

end Weblog
