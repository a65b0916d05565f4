import Mathlib.Data.String.Basic
import Weblog.Json.Text

namespace Weblog.Utf8

open Json (byte)

/-- The bytes of the characters, one after another. -/
def bytes (cs : List Char) : Bytes :=
  cs.flatMap String.utf8EncodeChar

theorem bytes_cons (c : Char) (cs : List Char) :
    bytes (c :: cs) = String.utf8EncodeChar c ++ bytes cs :=
  List.flatMap_cons

theorem bytes_append (cs ds : List Char) : bytes (cs ++ ds) = bytes cs ++ bytes ds :=
  List.flatMap_append

theorem encode_eq_bytes (s : String) : encode s = bytes s.toList := by
  conv => lhs; rw [← String.ofList_toList (s := s)]
  rw [encode, String.toUTF8_eq_toByteArray, String.toByteArray_ofList]
  exact List.data_toByteArray ▸ rfl

theorem encode_ofList (cs : List Char) : encode (String.ofList cs) = bytes cs := by
  rw [encode_eq_bytes, String.toList_ofList]

theorem decode_encode (s : String) : decode (encode s) = some s := by
  have hbytes : (encode s).toByteArray = s.toByteArray := by
    rw [encode, String.toUTF8_eq_toByteArray]
    exact ByteArray.ext (by simp)
  rw [decode, hbytes, String.fromUTF8?, dif_pos s.isValidUTF8]
  rfl

theorem encodeChar_append_inj {c d : Char} {xs ys : Bytes}
    (h : String.utf8EncodeChar c ++ xs = String.utf8EncodeChar d ++ ys) : c = d ∧ xs = ys := by
  have hread : ∀ (c : Char) (xs : Bytes),
      (String.utf8EncodeChar c ++ xs).toByteArray.utf8DecodeChar? 0 = some c := by
    intro c xs
    rw [List.toByteArray_append]
    exact ByteArray.utf8DecodeChar?_utf8EncodeChar_append
  have hc := hread c xs
  rw [h, hread d ys] at hc
  obtain rfl := Option.some.inj hc
  exact ⟨rfl, List.append_cancel_left h⟩

theorem bytes_prefix_iff {cs ds : List Char} : bytes cs <+: bytes ds ↔ cs <+: ds := by
  constructor
  · intro h
    induction cs generalizing ds with
    | nil => exact List.nil_prefix
    | cons c cs ih =>
        obtain ⟨rest, hrest⟩ := h
        rw [bytes_cons, List.append_assoc] at hrest
        cases ds with
        | nil =>
            have hnil := (List.append_eq_nil_iff.mp hrest).1
            simp at hnil
        | cons d ds =>
            rw [bytes_cons] at hrest
            obtain ⟨rfl, htail⟩ := encodeChar_append_inj hrest
            exact List.cons_prefix_cons.mpr ⟨rfl, ih ⟨rest, htail⟩⟩
  · rintro ⟨rest, rfl⟩
    exact ⟨bytes rest, (bytes_append cs rest).symm⟩

theorem toNat_byte {c : Char} (hc : c.toNat < 0x80) : (byte c).toNat = c.toNat := by
  rw [byte, UInt8.toNat_ofNat']
  omega

theorem encodeChar_ascii {c : Char} (hc : c.toNat < 0x80) : String.utf8EncodeChar c = [byte c] :=
  if_pos (Nat.le_of_lt_succ hc)

theorem bytes_cons_ascii {c : Char} (hc : c.toNat < 0x80) (cs : List Char) :
    bytes (c :: cs) = byte c :: bytes cs := by
  rw [bytes_cons, encodeChar_ascii hc]
  rfl

theorem bytes_ascii {cs : List Char} (hcs : ∀ c ∈ cs, c.toNat < 0x80) : bytes cs = cs.map byte := by
  induction cs with
  | nil => rfl
  | cons c cs ih =>
      obtain ⟨hc, hcs⟩ := List.forall_mem_cons.mp hcs
      rw [bytes_cons_ascii hc, ih hcs, List.map_cons]

theorem le_of_mem_encodeChar {c : Char} (hc : 0x80 ≤ c.toNat) {b : UInt8}
    (hb : b ∈ String.utf8EncodeChar c) : 0x80 ≤ b.toNat := by
  have hval : c.val.toNat = c.toNat := rfl
  simp only [String.utf8EncodeChar, hval] at hb
  rw [if_neg (by omega)] at hb
  split at hb
  · simp only [List.mem_cons, List.not_mem_nil, or_false] at hb
    rcases hb with rfl | rfl <;> (rw [UInt8.toNat_ofNat']; omega)
  split at hb
  · simp only [List.mem_cons, List.not_mem_nil, or_false] at hb
    rcases hb with rfl | rfl | rfl <;> (rw [UInt8.toNat_ofNat']; omega)
  · simp only [List.mem_cons, List.not_mem_nil, or_false] at hb
    rcases hb with rfl | rfl | rfl | rfl <;> (rw [UInt8.toNat_ofNat']; omega)

theorem sextets_lt {m n : Nat} (h : m < n) :
    m / 262144 < n / 262144 ∨ m / 262144 = n / 262144 ∧ (m / 4096 % 64 < n / 4096 % 64 ∨
      m / 4096 % 64 = n / 4096 % 64 ∧ (m / 64 % 64 < n / 64 % 64 ∨
        m / 64 % 64 = n / 64 % 64 ∧ m % 64 < n % 64)) := by
  omega

theorem encodeChar_append_lt {c d : Char} (h : c < d) (xs ys : Bytes) :
    String.utf8EncodeChar c ++ xs < String.utf8EncodeChar d ++ ys := by
  have hless : c.val.toNat < d.val.toNat := h
  have hmost : d.val.toNat < 0x110000 := by
    have hvalid := d.valid
    simp only [UInt32.isValidChar, Nat.isValidChar] at hvalid
    omega
  have hsextets := sextets_lt hless
  simp only [String.utf8EncodeChar]
  split_ifs <;>
    simp (disch := omega) only [List.cons_append, List.cons_lt_cons_iff, UInt8.lt_iff_toNat_lt,
      ← UInt8.toNat_inj, UInt8.toNat_ofNat', Nat.mod_eq_of_lt, Nat.add_lt_add_iff_right,
      Nat.add_right_cancel_iff] <;>
    omega

theorem bytes_lt {cs ds : List Char} (h : cs < ds) : bytes cs < bytes ds := by
  induction cs generalizing ds with
  | nil =>
      cases ds with
      | nil => exact absurd h (List.lt_irrefl [])
      | cons d ds =>
          rw [bytes_cons]
          cases hd : String.utf8EncodeChar d with
          | nil => simp at hd
          | cons b bs => exact List.nil_lt_cons b _
  | cons c cs ih =>
      cases ds with
      | nil => exact absurd h (List.not_lt_nil _)
      | cons d ds =>
          rw [bytes_cons, bytes_cons]
          rcases List.cons_lt_cons_iff.mp h with hcd | ⟨rfl, hrest⟩
          · exact encodeChar_append_lt hcd _ _
          · exact List.append_left_lt (ih hrest)

theorem encode_lt_iff {s t : String} : encode s < encode t ↔ s < t := by
  rw [encode_eq_bytes, encode_eq_bytes, String.lt_iff_toList_lt]
  refine ⟨fun h => ?_, bytes_lt⟩
  rcases lt_trichotomy s.toList t.toList with hless | heq | hback
  · exact hless
  · exact absurd h (heq ▸ List.lt_irrefl _)
  · exact absurd h (List.lt_asymm (bytes_lt hback))

end Weblog.Utf8
