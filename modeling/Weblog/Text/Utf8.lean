namespace Weblog

/-- Text or data as it is sent. -/
abbrev Bytes := List UInt8

namespace Utf8

def encode (s : String) : Bytes :=
  s.toUTF8.data.toList

def decode (bytes : Bytes) : Option String :=
  String.fromUTF8? bytes.toByteArray

/-- What stands for a malformed part. -/
def replacement : Char := '\ufffd'

/-- A character of several bytes in the middle: `owed` bytes are to come, the next of them
between `low` and `high`, and `value` is the number so far. -/
structure Partial where
  owed : Nat
  low : Nat
  high : Nat
  value : Nat

/-- What the first byte of a character of several bytes asks for. -/
def Partial.ofLead (b : Nat) : Option Partial :=
  if b < 0xC2 then none
  else if b ≤ 0xDF then some ⟨1, 0x80, 0xBF, b - 0xC0⟩
  else if b = 0xE0 then some ⟨2, 0xA0, 0xBF, 0⟩
  else if b = 0xED then some ⟨2, 0x80, 0x9F, 0xD⟩
  else if b ≤ 0xEF then some ⟨2, 0x80, 0xBF, b - 0xE0⟩
  else if b = 0xF0 then some ⟨3, 0x90, 0xBF, 0⟩
  else if b ≤ 0xF3 then some ⟨3, 0x80, 0xBF, b - 0xF0⟩
  else if b = 0xF4 then some ⟨3, 0x80, 0x8F, 4⟩
  else none

/-- The characters that are complete after a byte between characters, and what it begins. -/
def afterFirst (b : Nat) : List Char × Option Partial :=
  if b < 0x80 then ([Char.ofNat b], none)
  else
    match Partial.ofLead b with
    | some p => ([], some p)
    | none => ([replacement], none)

/-- The characters that are complete after one more byte, and what is in the middle then. A byte
that does not fit ends the malformed part before it. -/
def afterByte : Option Partial → Nat → List Char × Option Partial
  | none, b => afterFirst b
  | some p, b =>
    if p.low ≤ b ∧ b ≤ p.high then
      let value := p.value * 64 + (b - 0x80)
      if p.owed = 1 then ([Char.ofNat value], none)
      else ([], some ⟨p.owed - 1, 0x80, 0xBF, value⟩)
    else
      let (chars, next) := afterFirst b
      (replacement :: chars, next)

/-- Reads on from the state `p`; `done` holds the characters so far in reverse. -/
def lossyFrom (p : Option Partial) (done : List Char) : Bytes → List Char
  | [] => (if p.isSome then replacement :: done else done).reverse
  | b :: rest =>
    let (chars, next) := afterByte p b.toNat
    lossyFrom next (chars.reverse ++ done) rest

/-- The text with a replacement character for each longest malformed part. -/
def decodeLossy (bytes : Bytes) : String :=
  String.ofList (lossyFrom none [] bytes)

end Utf8

end Weblog
