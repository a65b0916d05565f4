import Weblog.Bcrypt.Pi
import Weblog.Text.Utf8

/-!
The block cipher behind password hashes. Its key schedule is slow on purpose: the schedule is
run again and again, twice the cost in the exponent, with the key and with the salt.
-/

namespace Weblog.Bcrypt

/-- The keys of the rounds and the four boxes of 256 words, one after the other. -/
structure Schedule where
  keys : Array UInt32
  boxes : Array UInt32

def Schedule.initial : Schedule := ⟨piKeys, piBoxes⟩

/-- Two words, which are one block of the cipher. -/
structure Block where
  left : UInt32
  right : UInt32

/-- The function of a round. -/
@[inline] def mix (boxes : Array UInt32) (x : UInt32) : UInt32 :=
  let a := boxes.getD (x >>> 24).toNat 0
  let b := boxes.getD (256 + ((x >>> 16) &&& 0xFF).toNat) 0
  let c := boxes.getD (512 + ((x >>> 8) &&& 0xFF).toNat) 0
  let d := boxes.getD (768 + (x &&& 0xFF).toNat) 0
  ((a + b) ^^^ c) + d

/-- The pairs of rounds from round `16 - 2 * n` on. -/
def roundPairs (keys boxes : Array UInt32) (left right : UInt32) : (n : Nat) → Block
  | 0 => ⟨right ^^^ keys.getD 17 0, left ^^^ keys.getD 16 0⟩
  | n + 1 =>
    let left := left ^^^ keys.getD (14 - 2 * n) 0
    let right := right ^^^ mix boxes left
    let right := right ^^^ keys.getD (15 - 2 * n) 0
    let left := left ^^^ mix boxes right
    roundPairs keys boxes left right n

/-- The block after the 16 rounds. -/
def encipher (keys boxes : Array UInt32) (left right : UInt32) : Block :=
  roundPairs keys boxes left right 8

/-- Fills the last `n` pairs of the keys with the blocks of a chain that goes over the salt. -/
def fillKeys (salt : Array UInt32) (boxes keys : Array UInt32) (block : Block) :
    (n : Nat) → Array UInt32 × Block
  | 0 => (keys, block)
  | n + 1 =>
    let i := 16 - 2 * n
    let left := block.left ^^^ salt.getD (i % 4) 0
    let right := block.right ^^^ salt.getD ((i + 1) % 4) 0
    let block := encipher keys boxes left right
    fillKeys salt boxes ((keys.setIfInBounds i block.left).setIfInBounds (i + 1) block.right)
      block n

/-- Fills the last `n` pairs of the boxes with the blocks that come after. -/
def fillBoxes (salt : Array UInt32) (keys boxes : Array UInt32) (block : Block) :
    (n : Nat) → Array UInt32
  | 0 => boxes
  | n + 1 =>
    let i := 1022 - 2 * n
    let left := block.left ^^^ salt.getD ((i + 2) % 4) 0
    let right := block.right ^^^ salt.getD ((i + 3) % 4) 0
    let block := encipher keys boxes left right
    fillBoxes salt keys ((boxes.setIfInBounds i block.left).setIfInBounds (i + 1) block.right)
      block n

/-- The keys of the rounds with a key of 18 words laid over them. -/
def overlay (keys key : Array UInt32) : Array UInt32 :=
  Array.zipWith (· ^^^ ·) keys key

/-- One run of the key schedule, with a salt of four words. -/
def Schedule.expand (s : Schedule) (salt key : Array UInt32) : Schedule :=
  let (keys, block) := fillKeys salt s.boxes (overlay s.keys key) ⟨0, 0⟩ 9
  ⟨keys, fillBoxes salt keys s.boxes block 512⟩

def noSalt : Array UInt32 := #[0, 0, 0, 0]

/-- So many rounds of the slow schedule. -/
def Schedule.repeated (s : Schedule) (key salt : Array UInt32) : (n : Nat) → Schedule
  | 0 => s
  | n + 1 => ((s.expand noSalt key).expand noSalt salt).repeated key salt n

/-- The block after the cipher has been applied `n` times. -/
def Schedule.encipherTimes (s : Schedule) (block : Block) : (n : Nat) → Block
  | 0 => block
  | n + 1 => s.encipherTimes (encipher s.keys s.boxes block.left block.right) n

/-- The word that four bytes write, the first byte the highest. -/
def word (a b c d : UInt8) : UInt32 :=
  (a.toUInt32 <<< 24) ||| (b.toUInt32 <<< 16) ||| (c.toUInt32 <<< 8) ||| d.toUInt32

def wordsOf : Bytes → List UInt32
  | a :: b :: c :: d :: rest => word a b c d :: wordsOf rest
  | _ => []

def bytesOf (w : UInt32) : Bytes :=
  [(w >>> 24).toUInt8, (w >>> 16).toUInt8, (w >>> 8).toUInt8, w.toUInt8]

/-- The stream of the bytes over and over, cut to `n` of them. -/
def cycled (n : Nat) (bytes : Bytes) : Bytes :=
  (List.range n).map fun i => bytes.getD (i % bytes.length) 0

/-- Three blocks of text that the cipher turns into the hash. -/
def magic : List Block :=
  [⟨0x4F727068, 0x65616E42⟩, ⟨0x65686F6C, 0x64657253⟩, ⟨0x63727944, 0x6F756274⟩]

/-- The 24 bytes that a key of 72 bytes and a salt of 16 give at a cost. -/
def raw (cost : Nat) (salt key : Bytes) : Bytes :=
  let key := (wordsOf key).toArray
  let saltWords := (wordsOf salt).toArray
  let longSalt := (wordsOf (cycled 72 salt)).toArray
  let start := Schedule.initial.expand saltWords key
  let schedule := start.repeated key longSalt (Nat.pow 2 cost)
  magic.flatMap fun block =>
    let b := schedule.encipherTimes block 64
    bytesOf b.left ++ bytesOf b.right

end Weblog.Bcrypt
