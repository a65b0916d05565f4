import Weblog.Text.Utf8

namespace Weblog.Base64

/-- The 64 symbols in the order of their values. -/
structure Alphabet where
  symbols : List Char

/-- Letters, digits, hyphen and underscore, which may stand in an address. -/
def url : Alphabet :=
  ⟨"ABCDEFGHIJKLMNOPQRSTUVWXYZabcdefghijklmnopqrstuvwxyz0123456789-_".toList⟩

/-- The alphabet of password hashes. -/
def crypt : Alphabet :=
  ⟨"./ABCDEFGHIJKLMNOPQRSTUVWXYZabcdefghijklmnopqrstuvwxyz0123456789".toList⟩

/-- Why a text is refused; offsets count bytes. -/
inductive Error where
  | symbol (byte : UInt8) (offset : Nat)
  | lastSymbol (byte : UInt8) (offset : Nat)
  | length (n : Nat)
  | padding
deriving Repr, DecidableEq

def Error.message : Error → String
  | .symbol byte offset => s!"Invalid symbol {byte.toNat}, offset {offset}."
  | .lastSymbol byte offset => s!"Invalid last symbol {byte.toNat}, offset {offset}."
  | .length n => s!"Invalid input length: {n}"
  | .padding => "Invalid padding"

def Alphabet.symbol (a : Alphabet) (value : Nat) : Char :=
  a.symbols.getD value '='

def Alphabet.value? (a : Alphabet) (byte : UInt8) : Option Nat :=
  a.symbols.findIdx? fun c => c.toNat == byte.toNat

/-- The values of the symbols for the bytes. -/
def sextets : Bytes → List Nat
  | x :: y :: z :: rest =>
    let x := x.toNat; let y := y.toNat; let z := z.toNat
    x / 4 :: (x % 4 * 16 + y / 16) :: (y % 16 * 4 + z / 64) :: z % 64 :: sextets rest
  | [x, y] => [x.toNat / 4, x.toNat % 4 * 16 + y.toNat / 16, y.toNat % 16 * 4]
  | [x] => [x.toNat / 4, x.toNat % 4 * 16]
  | [] => []

/-- The bytes for the values; none where a value is left over or has bits that no byte takes. -/
def bytes? : List Nat → Option Bytes
  | a :: b :: c :: d :: rest => do
    let more ← bytes? rest
    return (a * 4 + b / 16).toUInt8 :: (b % 16 * 16 + c / 4).toUInt8 ::
      (c % 4 * 64 + d).toUInt8 :: more
  | [a, b, c] =>
    if c % 4 = 0 then some [(a * 4 + b / 16).toUInt8, (b % 16 * 16 + c / 4).toUInt8] else none
  | [a, b] => if b % 16 = 0 then some [(a * 4 + b / 16).toUInt8] else none
  | [_] => none
  | [] => some []

def encode (a : Alphabet) (bytes : Bytes) : List Char :=
  (sextets bytes).map a.symbol

/-- The symbol at `offset` is not of the alphabet; `rest` follows it and `n` symbols there are. -/
def refuse (byte : UInt8) (offset n : Nat) (rest : Bytes) : Error :=
  let isPadding := byte = 0x3D ∧ 2 ≤ offset % 4 ∧ offset / 4 = (n - 1) / 4 ∧ rest.all (· == 0x3D)
  if isPadding then .padding else .symbol byte offset

/-- The values of the symbols, of `n`, that come after `offset` others. -/
def values (a : Alphabet) (n offset : Nat) : Bytes → Except Error (List Nat)
  | [] => .ok []
  | byte :: rest =>
    match a.value? byte with
    | none => .error (refuse byte offset n rest)
    | some v =>
      match values a n (offset + 1) rest with
      | .ok vs => .ok (v :: vs)
      | .error e => .error e

def decode (a : Alphabet) (text : Bytes) : Except Error Bytes :=
  match values a text.length 0 text with
  | .error e => .error e
  | .ok vs =>
    match bytes? vs with
    | some bytes => .ok bytes
    | none =>
      if text.length % 4 = 1 then .error (.length text.length)
      else .error (.lastSymbol (text.getLastD 0) (text.length - 1))

end Weblog.Base64
