import Weblog.Domain.ClassData
import Weblog.Domain.Table

/-!
Text in which what looks the same is written in one way: characters are taken apart into a base
and its marks, marks are put in order, and what can be one character is put together again.
-/

namespace Weblog.Domain

/-- Characters with the two that compose them. -/
def compositions : List (Char × Char × Char) :=
  (readTable compositionText).filterMap fun e =>
    match e.image with
    | [a, b] => some (Char.ofNat e.first, Char.ofNat a, Char.ofNat b)
    | _ => none

def markClasses : List Entry := readTable markClassText

/-- The class by which marks are put in order; 0 for what is not put in order. -/
def markClass (c : Char) : Nat :=
  match markClasses.find? (·.holds c) with
  | some e => e.image.headD 0
  | none => 0

/-- The first syllable of Hangul. Syllables are composed by rule of a lead, a vowel and perhaps a
tail. -/
def firstSyllable : Nat := 0xAC00
def firstLead : Nat := 0x1100
def firstVowel : Nat := 0x1161
def firstTail : Nat := 0x11A7
def leads : Nat := 19
def vowels : Nat := 21
def tails : Nat := 28

def syllableParts? (c : Char) : Option (List Char) :=
  let n := c.toNat - firstSyllable
  if firstSyllable ≤ c.toNat ∧ n < leads * vowels * tails then
    let lead := Char.ofNat (firstLead + n / (vowels * tails))
    let vowel := Char.ofNat (firstVowel + n / tails % vowels)
    some (if n % tails = 0 then [lead, vowel]
      else [lead, vowel, Char.ofNat (firstTail + n % tails)])
  else none

/-- The syllable of a lead and a vowel, or of a syllable without a tail and a tail. -/
def syllable? (a b : Char) : Option Char :=
  let lead := a.toNat - firstLead
  let vowel := b.toNat - firstVowel
  let block := a.toNat - firstSyllable
  let tail := b.toNat - firstTail
  if firstLead ≤ a.toNat ∧ lead < leads ∧ firstVowel ≤ b.toNat ∧ vowel < vowels then
    some (Char.ofNat (firstSyllable + (lead * vowels + vowel) * tails))
  else if firstSyllable ≤ a.toNat ∧ block < leads * vowels * tails ∧ block % tails = 0 ∧
      firstTail < b.toNat ∧ tail < tails then
    some (Char.ofNat (a.toNat + tail))
  else none

/-- The parts of a character, in at most `depth` rounds. -/
def takeApart : (depth : Nat) → Char → List Char
  | 0, c => [c]
  | depth + 1, c =>
    match syllableParts? c with
    | some parts => parts
    | none =>
      match compositions.find? (·.1 == c) with
      | some (_, a, b) => takeApart depth a ++ [b]
      | none => [c]

/-- No character is composed in more rounds than this. -/
def deepest : Nat := 4

/-- The character of the two, if they compose one. -/
def compose? (a b : Char) : Option Char :=
  match syllable? a b with
  | some c => some c
  | none => (compositions.find? fun e => e.2.1 == a && e.2.2 == b).map (·.1)

/-- Marks in order of their classes; `marks` are those since the last base, with their classes. -/
def orderMarks (marks : List (Nat × Char)) : List Char → List Char
  | [] => (marks.mergeSort fun a b => a.1 ≤ b.1).map (·.2)
  | c :: rest =>
    if markClass c = 0 then
      (marks.mergeSort fun a b => a.1 ≤ b.1).map (·.2) ++ c :: orderMarks [] rest
    else orderMarks (marks ++ [(markClass c, c)]) rest

/-- Puts characters together after a base and the marks that stay behind it, of which `last` is
the class of the last one. -/
def putTogether (base : Char) (marks : List Char) (last : Nat) : List Char → List Char
  | [] => base :: marks
  | c :: rest =>
    let whole := if marks.isEmpty || last < markClass c then compose? base c else none
    match whole with
    | some whole => putTogether whole marks last rest
    | none =>
      if markClass c = 0 then base :: marks ++ putTogether c [] 0 rest
      else putTogether base (marks ++ [c]) (markClass c) rest

/-- The text with its marks put in order and all characters put together. -/
def normalize (cs : List Char) : List Char :=
  match orderMarks [] (cs.flatMap (takeApart deepest)) with
  | [] => []
  | c :: rest => putTogether c [] (markClass c) rest

end Weblog.Domain
