import Weblog.Text.Utf8

namespace Weblog.Json

/-- The byte of an ASCII character. -/
def byte (c : Char) : UInt8 :=
  c.toNat.toUInt8

/-- The digit of base sixteen, with small letters. -/
def hexDigit (n : Nat) : Char :=
  if n < 10 then Char.ofNat (0x30 + n) else Char.ofNat (0x57 + n)

/-- How a character is written within a string. -/
def escape (c : Char) : List Char :=
  if c = '"' then ['\\', '"']
  else if c = '\\' then ['\\', '\\']
  else if c = '\x08' then ['\\', 'b']
  else if c = '\x0c' then ['\\', 'f']
  else if c = '\n' then ['\\', 'n']
  else if c = '\r' then ['\\', 'r']
  else if c = '\t' then ['\\', 't']
  else if c.toNat < 0x20 then
    ['\\', 'u', '0', '0', hexDigit (c.toNat / 16), hexDigit (c.toNat % 16)]
  else [c]

def quoted (s : String) : List Char :=
  '"' :: s.toList.flatMap escape ++ ['"']

def hexValue (b : UInt8) : Option Nat :=
  let n := b.toNat
  if 0x30 ≤ n ∧ n ≤ 0x39 then some (n - 0x30)
  else if 0x41 ≤ n ∧ n ≤ 0x46 then some (n - 0x37)
  else if 0x61 ≤ n ∧ n ≤ 0x66 then some (n - 0x57)
  else none

/-- The number written by four digits of base sixteen. -/
def hexValue4 (a b c d : UInt8) : Option Nat := do
  return (((← hexValue a) * 16 + (← hexValue b)) * 16 + (← hexValue c)) * 16 + (← hexValue d)

/-- The byte that a backslash and the byte `e` stand for. -/
def escaped? (e : UInt8) : Option UInt8 :=
  if e = byte '"' ∨ e = byte '\\' ∨ e = byte '/' then some e
  else if e = byte 'b' then some 0x08
  else if e = byte 'f' then some 0x0C
  else if e = byte 'n' then some 0x0A
  else if e = byte 'r' then some 0x0D
  else if e = byte 't' then some 0x09
  else none

/-- The first half of a pair that stands for one character. -/
def isHighHalf (n : Nat) : Bool := 0xD800 ≤ n && n ≤ 0xDBFF

/-- The second half of such a pair. -/
def isLowHalf (n : Nat) : Bool := 0xDC00 ≤ n && n ≤ 0xDFFF

/-- The bytes of a character, given by its number, in reverse. -/
def charBytesRev (n : Nat) : Bytes :=
  (Utf8.encode (Char.ofNat n).toString).reverse

/-- Reads on to the closing quote; `done` holds the bytes of the text so far in reverse. The
result is the bytes of the text and what follows the quote. -/
def textBytes (done : Bytes) : Bytes → Option (Bytes × Bytes)
  | [] => none
  | b :: rest =>
    if b = byte '"' then some (done.reverse, rest)
    else if b = byte '\\' then
      match rest with
      | [] => none
      | e :: rest =>
        if e = byte 'u' then
          match rest with
          | a :: b :: c :: d :: rest =>
            match hexValue4 a b c d with
            | none => none
            | some n =>
              -- the second half of a pair, with no first one before it
              if isLowHalf n then none
              else if isHighHalf n then
                match rest with
                | s :: u :: a :: b :: c :: d :: rest =>
                  match hexValue4 a b c d with
                  | none => none
                  | some m =>
                    if s = byte '\\' ∧ u = byte 'u' ∧ isLowHalf m = true then
                      textBytes
                        (charBytesRev (0x10000 + (n - 0xD800) * 0x400 + (m - 0xDC00)) ++ done) rest
                    else none
                | _ => none
              else textBytes (charBytesRev n ++ done) rest
          | _ => none
        else
          match escaped? e with
          | some x => textBytes (x :: done) rest
          | none => none
    else if b < 0x20 then none
    else textBytes (b :: done) rest

/-- The string whose opening quote has been read, and what follows its closing quote. -/
def text? (bytes : Bytes) : Option (String × Bytes) := do
  let (content, rest) ← textBytes [] bytes
  return (← Utf8.decode content, rest)

end Weblog.Json
