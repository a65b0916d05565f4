import Weblog.Text.Utf8

namespace Weblog.Sha256

/-- Fractions of the cube roots of the first 64 primes. -/
def roundConstants : List UInt32 :=
  [0x428A2F98, 0x71374491, 0xB5C0FBCF, 0xE9B5DBA5, 0x3956C25B, 0x59F111F1, 0x923F82A4,
   0xAB1C5ED5, 0xD807AA98, 0x12835B01, 0x243185BE, 0x550C7DC3, 0x72BE5D74, 0x80DEB1FE,
   0x9BDC06A7, 0xC19BF174, 0xE49B69C1, 0xEFBE4786, 0x0FC19DC6, 0x240CA1CC, 0x2DE92C6F,
   0x4A7484AA, 0x5CB0A9DC, 0x76F988DA, 0x983E5152, 0xA831C66D, 0xB00327C8, 0xBF597FC7,
   0xC6E00BF3, 0xD5A79147, 0x06CA6351, 0x14292967, 0x27B70A85, 0x2E1B2138, 0x4D2C6DFC,
   0x53380D13, 0x650A7354, 0x766A0ABB, 0x81C2C92E, 0x92722C85, 0xA2BFE8A1, 0xA81A664B,
   0xC24B8B70, 0xC76C51A3, 0xD192E819, 0xD6990624, 0xF40E3585, 0x106AA070, 0x19A4C116,
   0x1E376C08, 0x2748774C, 0x34B0BCB5, 0x391C0CB3, 0x4ED8AA4A, 0x5B9CCA4F, 0x682E6FF3,
   0x748F82EE, 0x78A5636F, 0x84C87814, 0x8CC70208, 0x90BEFFFA, 0xA4506CEB, 0xBEF9A3F7,
   0xC67178F2]

/-- The eight words that go from block to block. -/
structure State where
  a : UInt32
  b : UInt32
  c : UInt32
  d : UInt32
  e : UInt32
  f : UInt32
  g : UInt32
  h : UInt32

/-- Fractions of the square roots of the first eight primes. -/
def initial : State :=
  ⟨0x6A09E667, 0xBB67AE85, 0x3C6EF372, 0xA54FF53A, 0x510E527F, 0x9B05688C, 0x1F83D9AB,
   0x5BE0CD19⟩

def State.words (s : State) : List UInt32 :=
  [s.a, s.b, s.c, s.d, s.e, s.f, s.g, s.h]

def rotate (x n : UInt32) : UInt32 :=
  (x >>> n) ||| (x <<< (32 - n))

/-- One round, with the constant `k` and the word `w` of the schedule. -/
def round (s : State) (k w : UInt32) : State :=
  let s1 := rotate s.e 6 ^^^ rotate s.e 11 ^^^ rotate s.e 25
  let choice := (s.e &&& s.f) ^^^ (~~~s.e &&& s.g)
  let t1 := s.h + s1 + choice + k + w
  let s0 := rotate s.a 2 ^^^ rotate s.a 13 ^^^ rotate s.a 22
  let majority := (s.a &&& s.b) ^^^ (s.a &&& s.c) ^^^ (s.b &&& s.c)
  ⟨t1 + (s0 + majority), s.a, s.b, s.c, s.d + t1, s.e, s.f, s.g⟩

/-- The word of the schedule that comes after a window of 16 of them. -/
def nextWord (window : List UInt32) : UInt32 :=
  let w1 := window.getD 1 0
  let w14 := window.getD 14 0
  let s0 := rotate w1 7 ^^^ rotate w1 18 ^^^ (w1 >>> 3)
  let s1 := rotate w14 17 ^^^ rotate w14 19 ^^^ (w14 >>> 10)
  window.getD 0 0 + s0 + window.getD 9 0 + s1

/-- The rounds for the constants; the window holds the next 16 words of the schedule. -/
def rounds (s : State) (window : List UInt32) : List UInt32 → State
  | [] => s
  | k :: ks => rounds (round s k (window.getD 0 0)) (window.tail ++ [nextWord window]) ks

/-- The state after a block of 16 words. -/
def compress (s : State) (block : List UInt32) : State :=
  let t := rounds s block roundConstants
  ⟨s.a + t.a, s.b + t.b, s.c + t.c, s.d + t.d, s.e + t.e, s.f + t.f, s.g + t.g, s.h + t.h⟩

/-- The words of the bytes, the first byte the highest. -/
def wordsOf : Bytes → List UInt32
  | a :: b :: c :: d :: rest =>
    ((a.toUInt32 <<< 24) ||| (b.toUInt32 <<< 16) ||| (c.toUInt32 <<< 8) ||| d.toUInt32) ::
      wordsOf rest
  | _ => []

/-- The bytes of a word, the highest first. -/
def bytesOf (w : UInt32) : Bytes :=
  [(w >>> 24).toUInt8, (w >>> 16).toUInt8, (w >>> 8).toUInt8, w.toUInt8]

/-- Takes in word after word; `pending` holds those of a block that is not full, in reverse. -/
def absorb (s : State) (pending : List UInt32) : List UInt32 → State
  | [] => s
  | w :: rest =>
    if pending.length = 15 then absorb (compress s (w :: pending).reverse) [] rest
    else absorb s (w :: pending) rest

/-- The message with a mark behind it, zeros, and its length in bits, in whole blocks. -/
def pad (message : Bytes) : Bytes :=
  let bits := (8 * message.length).toUInt64
  let zeros : Bytes := List.replicate ((119 - message.length % 64) % 64) 0
  message ++ 0x80 :: zeros ++ bytesOf (bits >>> 32).toUInt32 ++ bytesOf bits.toUInt32

/-- The 32 bytes of the digest. -/
def digest (message : Bytes) : Bytes :=
  (absorb initial [] (wordsOf (pad message))).words.flatMap bytesOf

/-- A key of one block: a longer one is taken to its digest. -/
def blockKey (key : Bytes) : Bytes :=
  let key := if 64 < key.length then digest key else key
  key ++ List.replicate (64 - key.length) 0

/-- The code of the message under the key. -/
def code (key message : Bytes) : Bytes :=
  let key := blockKey key
  digest (key.map (· ^^^ 0x5C) ++ digest (key.map (· ^^^ 0x36) ++ message))

end Weblog.Sha256
