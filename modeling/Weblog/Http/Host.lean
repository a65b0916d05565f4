import Weblog.Domain.Name
import Weblog.Text.Percent

namespace Weblog.Host

open Weblog.Text

/-- Why an address cannot be read. -/
inductive Fault where
  | noScheme
  | emptyHost
  | domain
  | domainCharacter
  | ipv4
  | ipv6
  | port
deriving Repr, DecidableEq

def Fault.message : Fault → String
  | .noScheme => "relative URL without a base"
  | .emptyHost => "empty host"
  | .domain => "invalid international domain name"
  | .domainCharacter => "invalid domain character"
  | .ipv4 => "invalid IPv4 address"
  | .ipv6 => "invalid IPv6 address"
  | .port => "invalid port number"

def isHexDigit (c : Char) : Bool :=
  c.isDigit || ('a' ≤ c && c ≤ 'f') || ('A' ≤ c && c ≤ 'F')

def hexDigitValue (c : Char) : Nat :=
  if c.isDigit then c.toNat - 0x30
  else if c.isUpper then c.toNat - 0x37
  else c.toNat - 0x57

/-- The number that digits write in the base. -/
def ofDigits (base : Nat) (cs : List Char) : Nat :=
  cs.foldl (fun n c => base * n + hexDigitValue c) 0

/-- The number that a part of an address writes: in base sixteen after `0x`, in base eight after
`0`, and else in base ten. -/
def number? (cs : List Char) : Option Nat :=
  let read (base : Nat) (isDigit : Char → Bool) (cs : List Char) :=
    if cs.all isDigit then some (ofDigits base cs) else none
  match cs with
  | [] => none
  | '0' :: 'x' :: rest => read 16 isHexDigit rest
  | '0' :: 'X' :: rest => read 16 isHexDigit rest
  | '0' :: c :: rest => read 8 (fun c => '0' ≤ c && c ≤ '7') (c :: rest)
  | cs => read 10 Char.isDigit cs

/-- The parts of a name, without an empty one at its end. -/
def parts (name : List Char) : List (List Char) :=
  let all := splitAt '.' name
  if all.length > 1 && all.getLast?.any (·.isEmpty) then all.dropLast else all

/-- The name ends in a number, so it must be the number of a machine. -/
def endsInNumber (name : List Char) : Bool :=
  match (parts name).getLast? with
  | some last => (!last.isEmpty && last.all Char.isDigit) || (number? last).isSome
  | none => false

/-- The number of a machine, of which the last part fills what the others leave. -/
def ipv4? (name : List Char) : Option Nat := do
  let numbers ← (parts name).mapM number?
  let last ← numbers.getLast?
  let front := numbers.dropLast
  if numbers.length ≤ 4 ∧ front.all (· ≤ 255) ∧ last < Nat.pow 256 (4 - front.length) then
    some (front.zipIdx.foldl (fun sum (n, i) => sum + n * Nat.pow 256 (3 - i)) last)
  else none

/-- Four numbers with points between them. -/
def ipv4Text (n : Nat) : List Char :=
  ['.'].intercalate ([n / Nat.pow 256 3, n / Nat.pow 256 2 % 256, n / 256 % 256, n % 256].map
    (Nat.toDigits 10))

/-- The two pieces that four numbers with points between them make. -/
def embedded? (cs : List Char) : Option (List Nat) := do
  let numbers := splitAt '.' cs
  if numbers.length = 4 ∧ numbers.all (fun part => !part.isEmpty && part.all Char.isDigit &&
      (part.length == 1 || part.head? != some '0') && ofDigits 10 part ≤ 255) then
    match numbers.map (ofDigits 10) with
    | [a, b, c, d] => some [256 * a + b, 256 * c + d]
    | _ => none
  else none

/-- The pieces that groups of digits make; the last group may be four numbers with points. -/
def pieces? : List (List Char) → Option (List Nat)
  | [] => some []
  | [last] => if last.contains '.' then embedded? last else piece? last
  | group :: rest => do return (← piece? group) ++ (← pieces? rest)
where
  /-- The piece that a group of at most four digits makes. -/
  piece? (group : List Char) : Option (List Nat) :=
    if !group.isEmpty && group.length ≤ 4 && group.all isHexDigit then some [ofDigits 16 group]
    else none

/-- Groups between colons; no text has no groups. -/
def groups (cs : List Char) : List (List Char) :=
  if cs.isEmpty then [] else splitAt ':' cs

/-- What stands before the first two colons side by side, and after them. -/
def splitGap? : List Char → Option (List Char × List Char)
  | [] => none
  | [_] => none
  | ':' :: ':' :: rest => some ([], rest)
  | c :: rest => (splitGap? rest).map fun (before, after) => (c :: before, after)

/-- The eight pieces of the number of a machine; two colons stand for pieces that are 0. -/
def ipv6? (cs : List Char) : Option (List Nat) := do
  match splitGap? cs with
  | some (before, after) =>
    let front ← pieces? (groups before)
    let back ← pieces? (groups after)
    -- numbers with points between them stand at the end only, and a gap is never empty
    if !before.contains '.' ∧ front.length + back.length ≤ 7 then
      some (front ++ List.replicate (8 - front.length - back.length) 0 ++ back)
    else none
  | none =>
    let all ← pieces? (groups cs)
    if all.length = 8 then some all else none

/-- How many zeros the list begins with. -/
def zeros (l : List Nat) : Nat :=
  (l.takeWhile (· == 0)).length

/-- The first longest run of zeros among the pieces from place `i` on: its place and length. -/
def longestRun (i : Nat) : List Nat → Nat × Nat
  | [] => (i, 0)
  | n :: rest =>
    let later := longestRun (i + 1) rest
    if zeros (n :: rest) ≥ later.2 then (i, zeros (n :: rest)) else later

def piecesText (pieces : List Nat) : List Char :=
  [':'].intercalate (pieces.map (Nat.toDigits 16))

/-- The pieces in digits of base sixteen, with two colons for the first longest run of more than
one zero. -/
def ipv6Text (pieces : List Nat) : List Char :=
  let (place, length) := longestRun 0 pieces
  if length < 2 then piecesText pieces
  else piecesText (pieces.take place) ++ [':', ':'] ++ piecesText (pieces.drop (place + length))

/-- The number of a machine in brackets. -/
def bracketed (cs : List Char) : Except Fault (List Char) :=
  match cs.getLast? with
  | some ']' =>
    match ipv6? (cs.drop 1).dropLast with
    | some pieces => .ok ('[' :: ipv6Text pieces ++ [']'])
    | none => .error .ipv6
  | _ => .error .ipv6

/-- The host of an address of a kind in which hosts are machines. -/
def special (cs : List Char) : Except Fault (List Char) :=
  if cs.head? = some '[' then bracketed cs
  else
    match Domain.toAscii? (Percent.decode (Utf8.encode (String.ofList cs))) with
    | none => .error .domain
    | some [] => .error .emptyHost
    | some name =>
      if endsInNumber name then
        match ipv4? name with
        | some n => .ok (ipv4Text n)
        | none => .error .ipv4
      else .ok name

/-- A character that may not stand in a host of any kind. -/
def isSeparator (c : Char) : Bool :=
  "\x00\t\n\r #/:<>?@[\\]^|".toList.contains c

/-- The digit of base sixteen, with capital letters. -/
def capitalDigit (n : Nat) : Char :=
  if n < 10 then Char.ofNat (0x30 + n) else Char.ofNat (0x37 + n)

/-- A byte that is no sign of ASCII is written with a percent sign. -/
def escapeByte (b : UInt8) : List Char :=
  let n := b.toNat
  if n < 0x20 ∨ 0x7E < n then ['%', capitalDigit (n / 16), capitalDigit (n % 16)]
  else [Char.ofNat n]

/-- The host of an address of any other kind. -/
def plain (cs : List Char) : Except Fault (List Char) :=
  if cs.head? = some '[' then bracketed cs
  else if cs.any isSeparator then .error .domainCharacter
  else .ok ((Utf8.encode (String.ofList cs)).flatMap escapeByte)

end Weblog.Host
