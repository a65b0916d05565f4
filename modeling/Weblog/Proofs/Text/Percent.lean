import Mathlib.Data.List.Basic
import Weblog.Proofs.Text.Utf8
import Weblog.Text.Percent

namespace Weblog.Utf8

open Json (byte)

theorem Partial.ofLead_two {n : Nat} (hleast : 0x80 ≤ n) (hmost : n ≤ 0x7FF) :
    Partial.ofLead (n / 64 + 0xC0) = some ⟨1, 0x80, 0xBF, n / 64⟩ := by
  rw [Partial.ofLead, if_neg (by omega), if_pos (by omega), Nat.add_sub_cancel]

theorem Partial.ofLead_three {n : Nat} (hleast : 0x800 ≤ n) (hmost : n ≤ 0xFFFF)
    (hvalid : n < 0xD800 ∨ 0xDFFF < n) : ∃ low high,
    Partial.ofLead (n / 4096 + 0xE0) = some ⟨2, low, high, n / 4096⟩ ∧
      low ≤ n / 64 % 64 + 0x80 ∧ n / 64 % 64 + 0x80 ≤ high := by
  rw [Partial.ofLead, if_neg (by omega), if_neg (by omega)]
  split
  · exact ⟨0xA0, 0xBF, by simp; omega, by omega, by omega⟩
  rename_i hfirst
  split
  · exact ⟨0x80, 0x9F, by simp; omega, by omega, by omega⟩
  · rw [if_pos (by omega)]
    exact ⟨0x80, 0xBF, by simp, by omega, by omega⟩

theorem Partial.ofLead_four {n : Nat} (hleast : 0x10000 ≤ n) (hmost : n < 0x110000) : ∃ low high,
    Partial.ofLead (n / 262144 + 0xF0) = some ⟨3, low, high, n / 262144⟩ ∧
      low ≤ n / 4096 % 64 + 0x80 ∧ n / 4096 % 64 + 0x80 ≤ high := by
  rw [Partial.ofLead, if_neg (by omega), if_neg (by omega), if_neg (by omega), if_neg (by omega),
    if_neg (by omega)]
  split
  · exact ⟨0x90, 0xBF, by simp; omega, by omega, by omega⟩
  split
  · exact ⟨0x80, 0xBF, by simp, by omega, by omega⟩
  · rw [if_pos (by omega)]
    exact ⟨0x80, 0x8F, by simp; omega, by omega, by omega⟩

theorem lossyFrom_lead {p : Partial} {done : List Char} {b : Nat} {rest : Bytes}
    (hleast : 0x80 ≤ b) (hmost : b < 0x100) (hp : Partial.ofLead b = some p) :
    lossyFrom none done (UInt8.ofNat b :: rest) = lossyFrom (some p) done rest := by
  have hb : (UInt8.ofNat b).toNat = b := by rw [UInt8.toNat_ofNat', Nat.mod_eq_of_lt hmost]
  rw [lossyFrom, hb, afterByte, afterFirst, if_neg (Nat.not_lt.mpr hleast), hp]
  rfl

theorem lossyFrom_next {owed low high n : Nat} {done : List Char} {rest : Bytes}
    (hlow : low ≤ n % 64 + 0x80) (hhigh : n % 64 + 0x80 ≤ high) :
    lossyFrom (some ⟨owed + 2, low, high, n / 64⟩) done (UInt8.ofNat (n % 64 + 0x80) :: rest) =
      lossyFrom (some ⟨owed + 1, 0x80, 0xBF, n⟩) done rest := by
  have hb : (UInt8.ofNat (n % 64 + 0x80)).toNat = n % 64 + 0x80 := by
    rw [UInt8.toNat_ofNat', Nat.mod_eq_of_lt (by omega)]
  have hn : n / 64 * 64 + (n % 64 + 0x80 - 0x80) = n := by omega
  rw [lossyFrom, hb, afterByte, if_pos ⟨hlow, hhigh⟩, if_neg (by simp), hn]
  rfl

theorem lossyFrom_last {done : List Char} {n : Nat} {rest : Bytes} :
    lossyFrom (some ⟨1, 0x80, 0xBF, n / 64⟩) done (UInt8.ofNat (n % 64 + 0x80) :: rest) =
      lossyFrom none (Char.ofNat n :: done) rest := by
  have hb : (UInt8.ofNat (n % 64 + 0x80)).toNat = n % 64 + 0x80 := by
    rw [UInt8.toNat_ofNat', Nat.mod_eq_of_lt (by omega)]
  have hn : n / 64 * 64 + (n % 64 + 0x80 - 0x80) = n := by omega
  rw [lossyFrom, hb, afterByte, if_pos (by simp only; omega), if_pos rfl, hn]
  rfl

theorem lossyFrom_encodeChar (c : Char) (done : List Char) (rest : Bytes) :
    lossyFrom none done (String.utf8EncodeChar c ++ rest) = lossyFrom none (c :: done) rest := by
  have hval : c.val.toNat = c.toNat := rfl
  have hvalid : c.toNat < 0xD800 ∨ 0xDFFF < c.toNat ∧ c.toNat < 0x110000 := c.valid
  simp only [String.utf8EncodeChar, hval]
  split
  · rename_i hone
    have hb : (UInt8.ofNat c.toNat).toNat = c.toNat := by
      rw [UInt8.toNat_ofNat', Nat.mod_eq_of_lt (by omega)]
    rw [List.cons_append, lossyFrom, hb, afterByte, afterFirst, if_pos (by omega),
      Char.ofNat_toNat]
    rfl
  split
  · rename_i hone htwo
    have hlead := Partial.ofLead_two (by omega) htwo
    rw [Nat.mod_eq_of_lt (by omega : c.toNat / 64 < 32), List.cons_append,
      lossyFrom_lead (by omega) (by omega) hlead, List.cons_append, lossyFrom_last,
      Char.ofNat_toNat]
    rfl
  split
  · rename_i hone htwo hthree
    obtain ⟨low, high, hlead, hlow, hhigh⟩ :=
      Partial.ofLead_three (by omega) hthree (hvalid.imp_right And.left)
    have hdiv : c.toNat / 4096 = c.toNat / 64 / 64 := by omega
    rw [Nat.mod_eq_of_lt (by omega : c.toNat / 4096 < 16), List.cons_append,
      lossyFrom_lead (by omega) (by omega) hlead, hdiv, List.cons_append,
      lossyFrom_next hlow hhigh, List.cons_append, lossyFrom_last, Char.ofNat_toNat]
    rfl
  · obtain ⟨low, high, hlead, hlow, hhigh⟩ :=
      Partial.ofLead_four (n := c.toNat) (by omega) (by omega)
    have hdiv : c.toNat / 262144 = c.toNat / 4096 / 64 := by omega
    have hdiv' : c.toNat / 4096 = c.toNat / 64 / 64 := by omega
    rw [Nat.mod_eq_of_lt (by omega : c.toNat / 262144 < 8), List.cons_append,
      lossyFrom_lead (by omega) (by omega) hlead, hdiv, List.cons_append,
      lossyFrom_next hlow hhigh, hdiv', List.cons_append,
      lossyFrom_next (by omega) (by omega), List.cons_append, lossyFrom_last, Char.ofNat_toNat]
    rfl

theorem lossyFrom_done (p : Option Partial) (done : List Char) (bs : Bytes) :
    lossyFrom p done bs = done.reverse ++ lossyFrom p [] bs := by
  induction bs generalizing p done with
  | nil => cases p <;> simp [lossyFrom]
  | cons b bs ih =>
      have hstep : ∀ done, lossyFrom p done (b :: bs) =
          lossyFrom (afterByte p b.toNat).2 ((afterByte p b.toNat).1.reverse ++ done) bs :=
        fun _ => rfl
      rw [hstep, hstep, ih, ih _ (_ ++ [])]
      simp

theorem lossyFrom_cons (p : Option Partial) (b : UInt8) (bs : Bytes) :
    lossyFrom p [] (b :: bs) =
      (afterByte p b.toNat).1 ++ lossyFrom (afterByte p b.toNat).2 [] bs := by
  have hstep : lossyFrom p [] (b :: bs) =
      lossyFrom (afterByte p b.toNat).2 ((afterByte p b.toNat).1.reverse ++ []) bs := rfl
  rw [hstep, lossyFrom_done]
  simp

theorem decodeLossy_bytes (cs : List Char) : decodeLossy (bytes cs) = String.ofList cs := by
  have hread : lossyFrom none [] (bytes cs) = cs := by
    induction cs with
    | nil => rfl
    | cons c cs ih =>
        rw [bytes_cons, lossyFrom_encodeChar, lossyFrom_done, ih]
        rfl
  rw [decodeLossy, hread]

/-- The next byte is to be one that begins no character. -/
def Partial.IsInner (p : Partial) : Prop :=
  0x80 ≤ p.low ∧ p.high ≤ 0xBF

theorem isInner_afterByte (p : Option Partial) (b : Nat) (hp : ∀ q ∈ p, q.IsInner) :
    ∀ q ∈ (afterByte p b).2, q.IsInner := by
  have hfirst : ∀ q ∈ (afterFirst b).2, q.IsInner := by
    intro q hq
    rw [afterFirst] at hq
    split at hq
    · exact nomatch hq
    split at hq
    · rename_i p hlead
      obtain rfl := Option.some.inj hq
      rw [Partial.ofLead] at hlead
      split_ifs at hlead <;>
        (obtain rfl := Option.some.inj hlead; simp [Partial.IsInner])
    · exact nomatch hq
  cases p with
  | none => exact hfirst
  | some p =>
      rw [afterByte]
      split
      · split
        · exact fun q hq => nomatch hq
        · intro q hq
          obtain rfl := Option.some.inj hq
          exact ⟨Nat.le_refl _, Nat.le_refl _⟩
      · exact hfirst

theorem lossyFrom_of_first {p : Partial} (hp : p.IsInner) {b : UInt8}
    (hb : b.toNat < 0x80 ∨ 0xBF < b.toNat) (rest : Bytes) :
    lossyFrom (some p) [] (b :: rest) = replacement :: lossyFrom none [] (b :: rest) := by
  have hout : ¬ (p.low ≤ b.toNat ∧ b.toNat ≤ p.high) := by
    obtain ⟨hlow, hhigh⟩ := hp
    omega
  have hafter : afterByte (some p) b.toNat =
      (replacement :: (afterByte none b.toNat).1, (afterByte none b.toNat).2) := if_neg hout
  rw [lossyFrom_cons, lossyFrom_cons, hafter]
  rfl

theorem exists_encodeChar_eq_cons (c : Char) : ∃ b bs, String.utf8EncodeChar c = b :: bs ∧
    (b.toNat < 0x80 ∨ 0xBF < b.toNat) := by
  simp only [String.utf8EncodeChar]
  split_ifs <;>
    (refine ⟨_, _, rfl, ?_⟩; rw [UInt8.toNat_ofNat']; omega)

theorem lossyFrom_encodeChar_after {p : Option Partial} (hp : ∀ q ∈ p, q.IsInner) (c : Char)
    (rest : Bytes) : lossyFrom p [] (String.utf8EncodeChar c ++ rest) =
      (if p.isSome then [replacement] else []) ++ c :: lossyFrom none [] rest := by
  have hread : lossyFrom none [] (String.utf8EncodeChar c ++ rest) =
      c :: lossyFrom none [] rest := by
    rw [lossyFrom_encodeChar, lossyFrom_done]
    rfl
  cases p with
  | none => exact hread
  | some p =>
      obtain ⟨b, bs, hbytes, hb⟩ := exists_encodeChar_eq_cons c
      rw [hbytes, List.cons_append] at hread ⊢
      rw [lossyFrom_of_first (hp p rfl) hb, hread]
      rfl

theorem lossyFrom_bytes_after {p : Option Partial} (hp : ∀ q ∈ p, q.IsInner) {cs : List Char}
    (hcs : cs ≠ []) (rest : Bytes) : lossyFrom p [] (bytes cs ++ rest) =
      (if p.isSome then [replacement] else []) ++ cs ++ lossyFrom none [] rest := by
  induction cs generalizing p with
  | nil => exact absurd rfl hcs
  | cons c cs ih =>
      rw [bytes_cons, List.append_assoc, lossyFrom_encodeChar_after hp]
      cases cs with
      | nil => simp [bytes]
      | cons d cs =>
          rw [ih (by simp) (List.cons_ne_nil _ _)]
          simp

end Weblog.Utf8

namespace Weblog.Text.Percent

open Weblog.Json (byte)
open Weblog.Utf8 (bytes)

theorem decode_cons_of_ne {b : UInt8} (hb : b ≠ byte '%') (bs : Bytes) :
    decode (b :: bs) = b :: decode bs := by
  have hne : (b == byte '%') = false := beq_eq_false_iff_ne.mpr hb
  match bs with
  | [] => rfl
  | [_] => rfl
  | high :: low :: rest => simp [decode, hne]

theorem decode_append {bs : Bytes} (h : byte '%' ∉ bs) (rest : Bytes) :
    decode (bs ++ rest) = bs ++ decode rest := by
  induction bs with
  | nil => rfl
  | cons b bs ih =>
      obtain ⟨hb, hbs⟩ : byte '%' ≠ b ∧ byte '%' ∉ bs := by simpa using h
      rw [List.cons_append, decode_cons_of_ne (Ne.symm hb), ih hbs, List.cons_append]

theorem decode_percent {high low : UInt8} {m n : Nat} (hhigh : Json.hexValue high = some m)
    (hlow : Json.hexValue low = some n) (rest : Bytes) :
    decode (byte '%' :: high :: low :: rest) = (16 * m + n).toUInt8 :: decode rest := by
  rw [decode, beq_self_eq_true, hhigh, hlow]

theorem decode_percent_of_none {bs : Bytes} (h : ∀ high low rest, bs = high :: low :: rest →
    Json.hexValue high = none ∨ Json.hexValue low = none) :
    decode (byte '%' :: bs) = byte '%' :: decode bs := by
  match bs with
  | [] => rfl
  | [_] => rfl
  | high :: low :: rest =>
      rw [decode]
      rcases h high low rest rfl with hnone | hnone <;> simp [hnone]

theorem notMem_bytes {cs : List Char} (h : '%' ∉ cs) : byte '%' ∉ bytes cs := by
  intro hmem
  obtain ⟨c, hc, hb⟩ := List.mem_flatMap.mp hmem
  by_cases hascii : c.toNat < 0x80
  · rw [Utf8.encodeChar_ascii hascii, List.mem_singleton] at hb
    have hcode := congrArg UInt8.toNat hb
    rw [Utf8.toNat_byte hascii, Utf8.toNat_byte (by decide)] at hcode
    exact h (Char.toNat_inj.mp hcode ▸ hc)
  · exact absurd (Utf8.le_of_mem_encodeChar (Nat.le_of_not_lt hascii) hb) (by decide)

theorem decode_bytes {cs : List Char} (h : '%' ∉ cs) : decode (bytes cs) = bytes cs := by
  have happend := decode_append (notMem_bytes h) []
  have hnil : decode [] = [] := rfl
  rwa [List.append_nil, hnil, List.append_nil] at happend

end Weblog.Text.Percent
