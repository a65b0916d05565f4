import Weblog.Proofs.Text.Utf8

namespace Weblog.Json

open Utf8 (bytes)

/-- The byte stands for itself between quotes. -/
def IsLiteral (b : UInt8) : Prop :=
  b ≠ byte '"' ∧ b ≠ byte '\\' ∧ ¬ b < 0x20

theorem isLiteral_of_le {b : UInt8} (hb : 0x80 ≤ b.toNat) : IsLiteral b := by
  refine ⟨?_, ?_, ?_⟩
  · rintro rfl
    exact absurd hb (by decide)
  · rintro rfl
    exact absurd hb (by decide)
  · rw [UInt8.lt_iff_toNat_lt]
    exact Nat.not_lt.mpr (Nat.le_trans (by decide) hb)

theorem isLiteral_byte {c : Char} (hc : c.toNat < 0x80) (hquote : c ≠ '"') (hslash : c ≠ '\\')
    (hcontrol : ¬ c.toNat < 0x20) : IsLiteral (byte c) := by
  have hne : ∀ d : Char, d.toNat < 0x80 → c ≠ d → byte c ≠ byte d := by
    intro d hd hcd heq
    have hnat := congrArg UInt8.toNat heq
    rw [Utf8.toNat_byte hc, Utf8.toNat_byte hd] at hnat
    exact hcd (Char.toNat_inj.mp hnat)
  refine ⟨hne _ (by decide) hquote, hne _ (by decide) hslash, ?_⟩
  rw [UInt8.lt_iff_toNat_lt, Utf8.toNat_byte hc]
  exact hcontrol

/-- The forms in which a character is written: a backslash and a letter, its number in base sixteen,
or the character itself. -/
inductive Escape (c : Char) : Prop
  | letter {e : Char} (hform : escape c = ['\\', e]) (he : e.toNat < 0x80) (hu : byte e ≠ byte 'u')
      (hc : c.toNat < 0x80) (hread : escaped? (byte e) = some (byte c))
  | number (hform : escape c =
      ['\\', 'u', '0', '0', hexDigit (c.toNat / 16), hexDigit (c.toNat % 16)])
      (hc : c.toNat < 0x20)
  | itself (hform : escape c = [c]) (hliteral : ∀ b ∈ String.utf8EncodeChar c, IsLiteral b)

theorem escape_forms (c : Char) : Escape c := by
  by_cases hquote : c = '"'
  · subst hquote; exact .letter rfl (by decide) (by decide) (by decide) rfl
  by_cases hslash : c = '\\'
  · subst hslash; exact .letter rfl (by decide) (by decide) (by decide) rfl
  by_cases hb : c = '\x08'
  · subst hb; exact .letter rfl (by decide) (by decide) (by decide) rfl
  by_cases hf : c = '\x0c'
  · subst hf; exact .letter rfl (by decide) (by decide) (by decide) rfl
  by_cases hn : c = '\n'
  · subst hn; exact .letter rfl (by decide) (by decide) (by decide) rfl
  by_cases hr : c = '\r'
  · subst hr; exact .letter rfl (by decide) (by decide) (by decide) rfl
  by_cases ht : c = '\t'
  · subst ht; exact .letter rfl (by decide) (by decide) (by decide) rfl
  have hform : escape c = if c.toNat < 0x20 then
      ['\\', 'u', '0', '0', hexDigit (c.toNat / 16), hexDigit (c.toNat % 16)] else [c] := by
    rw [escape, if_neg hquote, if_neg hslash, if_neg hb, if_neg hf, if_neg hn, if_neg hr, if_neg ht]
  by_cases hcontrol : c.toNat < 0x20
  · rw [if_pos hcontrol] at hform
    exact .number hform hcontrol
  · rw [if_neg hcontrol] at hform
    refine .itself hform fun b hb => ?_
    by_cases hc : c.toNat < 0x80
    · rw [Utf8.encodeChar_ascii hc, List.mem_singleton] at hb
      exact hb ▸ isLiteral_byte hc hquote hslash hcontrol
    · exact isLiteral_of_le (Utf8.le_of_mem_encodeChar (Nat.not_lt.mp hc) hb)

theorem hexDigit_ascii : ∀ n < 16, (hexDigit n).toNat < 0x80 := by decide

theorem hexValue_hexDigit : ∀ n < 16, hexValue (byte (hexDigit n)) = some n := by decide

theorem bytes_number {n m : Nat} (hn : n < 16) (hm : m < 16) :
    bytes ['\\', 'u', '0', '0', hexDigit n, hexDigit m] =
      [byte '\\', byte 'u', byte '0', byte '0', byte (hexDigit n), byte (hexDigit m)] := by
  refine Utf8.bytes_ascii ?_
  simp only [List.forall_mem_cons]
  exact ⟨by decide, by decide, by decide, by decide, hexDigit_ascii n hn, hexDigit_ascii m hm,
    List.forall_mem_nil _⟩

theorem textBytes_quote (done rest : Bytes) :
    textBytes done (byte '"' :: rest) = some (done.reverse, rest) := by
  rw [textBytes.eq_def]
  simp only [if_true]

theorem textBytes_literal {b : UInt8} (hb : IsLiteral b) (done rest : Bytes) :
    textBytes done (b :: rest) = textBytes (b :: done) rest := by
  obtain ⟨hquote, hslash, hcontrol⟩ := hb
  rw [textBytes.eq_def]
  simp only [if_neg hquote, if_neg hslash, if_neg hcontrol]

theorem textBytes_letter {e x : UInt8} (hu : e ≠ byte 'u') (he : escaped? e = some x)
    (done rest : Bytes) :
    textBytes done (byte '\\' :: e :: rest) = textBytes (x :: done) rest := by
  have hquote : byte '\\' ≠ byte '"' := by decide
  rw [textBytes.eq_def]
  simp only [if_neg hquote, if_true, if_neg hu, he]

theorem textBytes_number {a b c d : UInt8} {n : Nat} (hn : hexValue4 a b c d = some n)
    (hlow : isLowHalf n = false) (hhigh : isHighHalf n = false) (done rest : Bytes) :
    textBytes done (byte '\\' :: byte 'u' :: a :: b :: c :: d :: rest) =
      textBytes (charBytesRev n ++ done) rest := by
  have hquote : byte '\\' ≠ byte '"' := by decide
  rw [textBytes.eq_def]
  simp only [if_neg hquote, if_true, hn, hlow, hhigh, Bool.false_eq_true, if_false]

theorem textBytes_literals {bs : Bytes} (hbs : ∀ b ∈ bs, IsLiteral b) (done rest : Bytes) :
    textBytes done (bs ++ rest) = textBytes (bs.reverse ++ done) rest := by
  induction bs generalizing done with
  | nil => rfl
  | cons b bs ih =>
      obtain ⟨hb, hbs⟩ := List.forall_mem_cons.mp hbs
      rw [List.cons_append, textBytes_literal hb, ih hbs, List.reverse_cons, List.append_assoc]
      rfl

theorem charBytesRev_toNat (c : Char) :
    charBytesRev c.toNat = (String.utf8EncodeChar c).reverse := by
  rw [charBytesRev, Char.ofNat_toNat, Utf8.encode_eq_bytes, Char.toString_eq_singleton,
    String.toList_singleton, bytes, List.flatMap_singleton]

theorem textBytes_escape (c : Char) (done rest : Bytes) :
    textBytes done (bytes (escape c) ++ rest) =
      textBytes ((String.utf8EncodeChar c).reverse ++ done) rest := by
  cases escape_forms c with
  | @letter e hform he hu hc hread =>
      rw [hform, Utf8.bytes_cons_ascii (by decide), Utf8.bytes_cons_ascii he,
        Utf8.encodeChar_ascii hc]
      exact textBytes_letter hu hread done rest
  | number hform hc =>
      have hvalue : hexValue4 (byte '0') (byte '0') (byte (hexDigit (c.toNat / 16)))
          (byte (hexDigit (c.toNat % 16))) = some c.toNat := by
        have hzero : hexValue (byte '0') = some 0 := rfl
        rw [hexValue4, hzero, hexValue_hexDigit _ (by omega), hexValue_hexDigit _ (by omega)]
        exact congrArg some (by omega)
      have hlow : isLowHalf c.toNat = false := by
        simp only [isLowHalf, Bool.and_eq_false_iff, decide_eq_false_iff_not]
        omega
      have hhigh : isHighHalf c.toNat = false := by
        simp only [isHighHalf, Bool.and_eq_false_iff, decide_eq_false_iff_not]
        omega
      rw [hform, bytes_number (by omega) (by omega), ← charBytesRev_toNat]
      exact textBytes_number hvalue hlow hhigh done rest
  | itself hform hliteral =>
      rw [hform, bytes, List.flatMap_singleton, textBytes_literals hliteral]

theorem textBytes_written (cs : List Char) (done rest : Bytes) :
    textBytes done (bytes (cs.flatMap escape) ++ byte '"' :: rest) =
      some (done.reverse ++ bytes cs, rest) := by
  induction cs generalizing done with
  | nil =>
      have hnil : bytes [] = [] := rfl
      rw [List.flatMap_nil, hnil, List.nil_append, textBytes_quote, List.append_nil]
  | cons c cs ih =>
      rw [List.flatMap_cons, Utf8.bytes_append, List.append_assoc, textBytes_escape, ih,
        Utf8.bytes_cons, List.reverse_append, List.reverse_reverse, List.append_assoc]

/-- A string that has been written is read as itself, to its closing quote. -/
theorem text?_written (s : String) (rest : Bytes) :
    text? (bytes (s.toList.flatMap escape) ++ byte '"' :: rest) = some (s, rest) := by
  rw [text?, textBytes_written]
  simp only [List.reverse_nil, List.nil_append, ← Utf8.encode_eq_bytes, Utf8.decode_encode,
    Option.bind_eq_bind, Option.bind_some, Option.pure_def]

end Weblog.Json
