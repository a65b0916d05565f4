import Weblog.Bcrypt.Cipher
import Weblog.Text.Base64
import Weblog.Text.Decimal
import Weblog.Text.Split

namespace Weblog.Bcrypt

open Weblog.Text

/-- No more bytes of a password than this are read. -/
def keyBytes : Nat := 72

/-- The key of a password: its bytes and a zero byte, cut to the bytes that are read, and then
over and over. -/
def key (password : String) : Bytes :=
  cycled keyBytes ((Utf8.encode password ++ [0]).take keyBytes)

/-- Why a password cannot be hashed or compared. -/
inductive Error where
  | hash (text : String)
  | version (name : String)
  | costNumber (text : String)
  | cost (n : Nat)
  | base64 (e : Base64.Error)
deriving Repr, DecidableEq

def leastCost : Nat := 4
def greatestCost : Nat := 31

def Error.message : Error → String
  | .hash text => s!"Invalid hash: {text}"
  | .version name => s!"Invalid Prefix: {name}"
  | .costNumber text => s!"Invalid Cost: {text}"
  | .cost n => s!"Cost needs to be between {leastCost} and {greatestCost}, got {n}"
  | .base64 e => s!"Base64 error: {e.message}"

/-- A hash taken apart. -/
structure Parts where
  cost : Nat
  salt : Bytes
  digest : Bytes

/-- Versions of the scheme, which are all taken alike. -/
def versions : List String := ["2a", "2b", "2x", "2y"]

/-- A byte that is not the first of a character. -/
def isContinuation (b : UInt8) : Bool :=
  b &&& 0xC0 == 0x80

/-- The parts of a hash. -/
def parts? (hash : String) : Except Error Parts :=
  match ((splitAt '$' hash.toList).filter (!·.isEmpty)).map String.ofList with
  | [version, cost, rest] =>
    if !versions.contains version then .error (.version version)
    else
      match unsigned? (Nat.pow 2 32) cost with
      | none => .error (.costNumber cost)
      | some n =>
        let bytes := Utf8.encode rest
        -- the salt has 22 bytes of the text, which must not end within a character
        if bytes.length = 53 ∧ (bytes.drop 22).head?.any isContinuation = false then
          .ok ⟨n, bytes.take 22, bytes.drop 22⟩
        else .error (.hash hash)
  | _ => .error (.hash hash)

/-- The 23 bytes of the hash of a password. -/
def digest (cost : Nat) (salt : Bytes) (password : String) : Bytes :=
  (raw cost salt (key password)).take 23

def checkCost (cost : Nat) : Except Error Unit :=
  if leastCost ≤ cost ∧ cost ≤ greatestCost then .ok () else .error (.cost cost)

def decode (text : Bytes) : Except Error Bytes :=
  (Base64.decode Base64.crypt text).mapError .base64

/-- The hash of a password with a salt of 16 bytes. -/
def hash (salt : Bytes) (cost : Nat) (password : String) : Except Error String := do
  checkCost cost
  let encoded := Base64.encode Base64.crypt
  let digits := Nat.toDigits 10 cost
  return String.ofList ("$2b$".toList ++ List.replicate (2 - digits.length) '0' ++ digits ++
    '$' :: encoded salt ++ encoded (digest cost salt password))

/-- The hash is one of the password. -/
def verify (password hash : String) : Except Error Bool := do
  let parts ← parts? hash
  let salt ← decode parts.salt
  checkCost parts.cost
  let expected ← decode parts.digest
  return digest parts.cost salt password == expected

end Weblog.Bcrypt
