import Weblog.Json.View

namespace Weblog.Json

/-- A number as it is written. -/
structure Numeral where
  negative : Bool
  /-- Digits before the point. -/
  whole : List Nat
  /-- Digits after the point. -/
  fraction : Option (List Nat)
  exponent : Option Int

def digitValue (b : UInt8) : Nat :=
  b.toNat - 0x30

/-- Digits at the front, and what follows them. -/
def digits (bytes : Bytes) : List Nat × Bytes :=
  ((bytes.takeWhile isDigit).map digitValue, bytes.dropWhile isDigit)

def ofDigits (ds : List Nat) : Nat :=
  ds.foldl (fun n d => n * 10 + d) 0

/-- The exponent that the bytes begin with, after its mark. -/
def exponentOf : Bytes → Int
  | [] => 0
  | b :: rest =>
    if b = byte '-' then -Int.ofNat (ofDigits (digits rest).1)
    else if b = byte '+' then ofDigits (digits rest).1
    else ofDigits (digits (b :: rest)).1

/-- The fraction and what follows it. -/
def fractionOf : Bytes → Option (List Nat) × Bytes
  | [] => (none, [])
  | b :: rest =>
    if b = byte '.' then (some (digits rest).1, (digits rest).2) else (none, b :: rest)

/-- The number that the bytes begin with, where a scan has passed over it. -/
def numeral? (bytes : Bytes) : Option Numeral :=
  let bytes := skipSpace bytes
  let negative := bytes.head? == some (byte '-')
  let bytes := if negative then bytes.tail else bytes
  let (whole, rest) := digits bytes
  if whole.isEmpty then none
  else
    let (fraction, rest) := fractionOf rest
    let exponent :=
      match rest with
      | b :: rest => if isExponentMark b then some (exponentOf rest) else none
      | [] => none
    some ⟨negative, whole, fraction, exponent⟩

/-- The number is an integer; a zero with a sign is not. -/
def Numeral.integer? (n : Numeral) : Option Int :=
  if n.fraction.isNone ∧ n.exponent.isNone then
    let magnitude := ofDigits n.whole
    if n.negative then if magnitude = 0 then none else some (-Int.ofNat magnitude)
    else some magnitude
  else none

/-- The integer has a place among the signed integers of 64 bits. -/
def fitsSigned (n : Int) : Bool :=
  -Int.ofNat (Nat.pow 2 63) ≤ n && n < Int.ofNat (Nat.pow 2 63)

/-- The signed integer of 64 bits that the bytes begin with. -/
def int? (bytes : Bytes) : Option Int := do
  let n ← (← numeral? bytes).integer?
  if fitsSigned n then some n else none

/-- A binary number `mantissa * 2 ^ power`. -/
structure Binary where
  mantissa : Nat
  power : Int

/-- The quotient `n / 2 ^ k` to the nearest integer, halfway cases to the even one. -/
def halveToEven (n k : Nat) : Nat :=
  let q := n / Nat.pow 2 k
  let r := n % Nat.pow 2 k
  if 2 * r > Nat.pow 2 k ∨ (2 * r = Nat.pow 2 k ∧ q % 2 = 1) then q + 1 else q

/-- The number of double precision nearest to `n`. -/
def Binary.ofNat (n : Nat) : Binary :=
  if n < Nat.pow 2 53 then ⟨n, 0⟩
  else
    let k := n.log2 - 52
    ⟨halveToEven n k, k⟩

/-- The integer that is `x`, for a power that is not negative. -/
def Binary.value (x : Binary) : Nat :=
  x.mantissa * Nat.pow 2 x.power.toNat

/-- The number of double precision nearest to a quotient; a quotient below the least one is
taken to zero. -/
def Binary.ofQuotient (n d : Nat) : Binary :=
  if n = 0 ∨ d = 0 then ⟨0, 0⟩
  else
    -- the quotient times `2 ^ shift` has 53 bits or 54, and its lowest bit keeps the remainder
    let shift : Int := min 1075 (55 + d.log2 - n.log2)
    let (n, d) :=
      if shift ≥ 0 then (n * Nat.pow 2 shift.toNat, d) else (n, d * Nat.pow 2 (-shift).toNat)
    let q := n / d * 2 + (if n % d = 0 then 0 else 1)
    let k := max (if shift = 1075 then 2 else 0) (q.log2 - 52)
    ⟨halveToEven q k, k - shift - 1⟩

/-- No number of double precision is so large. -/
def Binary.overflows (x : Binary) : Bool :=
  if x.power ≥ 0 then
    x.mantissa * Nat.pow 2 (min x.power 1024).toNat ≥ Nat.pow 2 1024 - Nat.pow 2 970
  else false

/-- The product, to be rounded. -/
def Binary.mul (x y : Binary) : Binary :=
  ⟨x.mantissa * y.mantissa, x.power + y.power⟩

/-- Leading digits that fit 64 bits without a sign, and how many digits are left. -/
def leadingDigits (acc : Nat) : List Nat → Nat × List Nat
  | [] => (acc, [])
  | d :: rest =>
    if acc * 10 + d < Nat.pow 2 64 then leadingDigits (acc * 10 + d) rest else (acc, d :: rest)

/-- The digits that count and the power of ten they stand with; digits after those that fit 64
bits only move the point. -/
def Numeral.scaled (n : Numeral) : Nat × Int :=
  let (significand, left) := leadingDigits 0 n.whole
  let fraction := n.fraction.getD []
  let (significand, unread) := leadingDigits significand fraction
  (significand, (left.length : Int) - (fraction.length - unread.length : Nat) + n.exponent.getD 0)

/-- The magnitude in double precision, unless it is too large. -/
def Numeral.magnitude? (n : Numeral) : Option Binary :=
  let (significand, power) := n.scaled
  if significand = 0 then some ⟨0, 0⟩
  else if power > 308 then none
  else if power ≥ 0 then
    let product := (Binary.ofNat significand).mul (Binary.ofNat (Nat.pow 10 power.toNat))
    if product.overflows then none else some product
  else if power < -400 then some ⟨0, 0⟩
  else
    let divisor := Binary.ofNat (Nat.pow 10 (-power).toNat)
    some (Binary.ofQuotient (Binary.ofNat significand).value divisor.value)

/-- The number is within the range of its type: an integer of 64 bits, or of double precision. -/
def Numeral.isFinite (n : Numeral) : Bool :=
  n.magnitude?.isSome

/-- The nearest integer, a half away from zero. -/
def Binary.round (x : Binary) : Nat :=
  if x.power ≥ 0 then x.mantissa * Nat.pow 2 x.power.toNat
  else
    let half := Nat.pow 2 (-x.power - 1).toNat
    (x.mantissa + half) / (2 * half)

/-- A date in seconds: a number that is not negative and below `2 ^ 64`, taken to the nearest
integer. -/
def Numeral.date? (n : Numeral) : Option Nat :=
  let isWhole := n.fraction.isNone && n.exponent.isNone && !n.negative
  if isWhole && ofDigits n.whole < Nat.pow 2 64 then some (ofDigits n.whole)
  else
    match n.magnitude? with
    | none => none
    | some x =>
      if n.negative && x.mantissa ≠ 0 then none
      else if x.power ≥ 64 ∨ x.round ≥ Nat.pow 2 64 then none
      else some x.round

end Weblog.Json
