import Weblog.Text.Split

/-!
Characters outside ASCII written in ASCII: the characters of ASCII come first, and after a hyphen
the others, each as the distance from the place of the one before it, in digits of base 36 whose
weights follow the distances.
-/

namespace Weblog.Domain.Punycode

open Weblog.Text

def base : Nat := 36
def leastThreshold : Nat := 1
def greatestThreshold : Nat := 26
def skew : Nat := 38
def damping : Nat := 700
def firstBias : Nat := 72

/-- The first code point outside ASCII. -/
def firstCode : Nat := 0x80

def isBasic (c : Char) : Bool :=
  c.toNat < firstCode

/-- The letter or digit for a value below `base`. -/
def digit (n : Nat) : Char :=
  if n < 26 then Char.ofNat (0x61 + n) else Char.ofNat (0x30 + n - 26)

def digitValue? (c : Char) : Option Nat :=
  if c.isLower then some (c.toNat - 0x61)
  else if c.isUpper then some (c.toNat - 0x41)
  else if c.isDigit then some (c.toNat - 0x30 + 26)
  else none

/-- A digit below the threshold ends a number; `position` counts digits in steps of `base`. -/
def threshold (position bias : Nat) : Nat :=
  min (max (position - bias) leastThreshold) greatestThreshold

theorem threshold_bounds (position bias : Nat) :
    0 < threshold position bias ∧ threshold position bias < base := by
  simp only [threshold, leastThreshold, greatestThreshold, base]
  omega

/-- The bias that fits a distance of the size. -/
def biasFor (delta : Nat) : Nat :=
  if (base - leastThreshold) * greatestThreshold / 2 < delta then
    base + biasFor (delta / (base - leastThreshold))
  else (base - leastThreshold + 1) * delta / (delta + skew)
termination_by delta
decreasing_by
  simp only [base, leastThreshold, greatestThreshold] at *
  omega

/-- The bias after a distance, the first or a later one, when so many characters are placed. -/
def adapt (delta placed : Nat) (isFirst : Bool) : Nat :=
  let delta := if isFirst then delta / damping else delta / 2
  biasFor (delta + delta / placed)

/-- The digits of a distance. -/
def digits (bias position n : Nat) : List Char :=
  let t := threshold position bias
  if n < t then [digit n]
  else digit (t + (n - t) % (base - t)) ::
    digits bias (position + base) ((n - t) / (base - t))
termination_by n
decreasing_by
  have := threshold_bounds position bias
  exact Nat.lt_of_le_of_lt (Nat.div_le_self _ _) (by omega)

/-- What has been written so far. -/
structure Writer where
  out : List Char
  delta : Nat
  bias : Nat
  placed : Nat

/-- Passes over one character while those with the code point `code` are written. -/
def Writer.pass (basics code : Nat) (w : Writer) (c : Char) : Writer :=
  if c.toNat < code then { w with delta := w.delta + 1 }
  else if c.toNat = code then
    { out := w.out ++ digits w.bias base w.delta
      delta := 0
      bias := adapt w.delta (w.placed + 1) (w.placed == basics)
      placed := w.placed + 1 }
  else w

/-- Writes the characters with the given code points, which rise from `code` on. -/
def Writer.write (cs : List Char) (basics : Nat) : (code : Nat) → List Nat → Writer → Writer
  | _, [], w => w
  | code, m :: rest, w =>
    let w := cs.foldl (Writer.pass basics m)
      { w with delta := w.delta + (m - code) * (w.placed + 1) }
    Writer.write cs basics (m + 1) rest { w with delta := w.delta + 1 }

/-- The code points outside ASCII, each once, in order. -/
def extendedCodes (cs : List Char) : List Nat :=
  ((cs.filter (!isBasic ·)).map Char.toNat).eraseDups.mergeSort

/-- The text in characters of ASCII. -/
def encode (cs : List Char) : List Char :=
  let basic := cs.filter isBasic
  let w :=
    Writer.write cs basic.length firstCode (extendedCodes cs) ⟨[], 0, firstBias, basic.length⟩
  (if basic.isEmpty then [] else basic ++ ['-']) ++ w.out

/-- What has been read so far. A number is being read where `position` is not `base`. -/
structure Reader where
  out : List Char
  code : Nat
  index : Nat
  bias : Nat
  start : Nat
  weight : Nat
  position : Nat

def char? (n : Nat) : Option Char :=
  if n.isValidChar then some (Char.ofNat n) else none

/-- Ends a number: places the character that it gives. -/
def Reader.place (r : Reader) : Option Reader := do
  let placed := r.out.length + 1
  -- a turn over all places counts for one code point, and what is left over is the place
  let code := r.code + r.index / placed
  let index := r.index % placed
  let c ← char? code
  return { out := r.out.take index ++ c :: r.out.drop index
           code := code
           index := index + 1
           bias := adapt (r.index - r.start) placed (r.start == 0)
           start := index + 1
           weight := 1
           position := base }

def Reader.read (r : Reader) (c : Char) : Option Reader := do
  let d ← digitValue? c
  let r := { r with index := r.index + d * r.weight }
  let t := threshold r.position r.bias
  if d < t then r.place
  else some { r with weight := r.weight * (base - t), position := r.position + base }

/-- The text that the characters of ASCII write, if they write one. -/
def decode? (cs : List Char) : Option (List Char) := do
  let (basic, rest) := match splitLast? '-' cs with
    | some (first :: basic, rest) => (first :: basic, rest)
    | _ => ([], cs)
  let r ← rest.foldlM Reader.read ⟨basic, firstCode, 0, firstBias, 0, 1, base⟩
  if basic.all isBasic ∧ r.position = base then some r.out else none

end Weblog.Domain.Punycode
