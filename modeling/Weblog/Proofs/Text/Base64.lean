import Weblog.Json.Text
import Weblog.Text.Base64

namespace Weblog.Base64

open Json (byte)

/-- The alphabet reads its own symbols. -/
def Alphabet.IsReadable (a : Alphabet) : Prop :=
  ∀ v < 64, a.value? (byte (a.symbol v)) = some v

/-- A literal is taken as the list of its characters, not decoded from its bytes. -/
theorem isReadable_literal {cs : List Char} (h : Alphabet.IsReadable ⟨cs⟩) :
    Alphabet.IsReadable ⟨(String.ofList cs).toList⟩ := by
  rwa [String.toList_ofList]

theorem isReadable_url : url.IsReadable := by
  refine isReadable_literal ?_
  unfold Alphabet.IsReadable
  decide

theorem forall_sextets_lt (bytes : Bytes) : ∀ v ∈ sextets bytes, v < 64 := by
  have hlt : ∀ b : UInt8, b.toNat < 256 := fun b => b.toNat_lt
  fun_induction sextets bytes with
  | case1 x y z rest a b c ih =>
      have ha : a < 256 := hlt x
      have hb : b < 256 := hlt y
      have hc : c < 256 := hlt z
      simp only [List.forall_mem_cons]
      exact ⟨by omega, by omega, by omega, by omega, ih⟩
  | case2 x y =>
      have hx := hlt x
      have hy := hlt y
      simp only [List.forall_mem_cons, List.not_mem_nil, false_implies, implies_true, and_true]
      omega
  | case3 x =>
      have hx := hlt x
      simp only [List.forall_mem_cons, List.not_mem_nil, false_implies, implies_true, and_true]
      omega
  | case4 => exact fun _ h => nomatch h

theorem forall_mem_encode {P : Char → Prop} {a : Alphabet} (ha : ∀ v < 64, P (a.symbol v))
    (bytes : Bytes) : ∀ c ∈ encode a bytes, P c := by
  intro c hc
  obtain ⟨v, hv, rfl⟩ := List.mem_map.mp hc
  exact ha v (forall_sextets_lt bytes v hv)

theorem values_map_symbol {a : Alphabet} (ha : a.IsReadable) (n offset : Nat) {vs : List Nat}
    (hvs : ∀ v ∈ vs, v < 64) : values a n offset (vs.map fun v => byte (a.symbol v)) = .ok vs := by
  induction vs generalizing offset with
  | nil => rfl
  | cons v vs ih =>
      obtain ⟨hv, hvs⟩ := List.forall_mem_cons.mp hvs
      rw [List.map_cons, values, ha v hv]
      simp only [ih (offset + 1) hvs]

theorem toUInt8_eq {n : Nat} {b : UInt8} (h : n % 256 = b.toNat) : n.toUInt8 = b := by
  rw [← UInt8.toNat_inj]
  exact h

theorem bytes?_sextets (bytes : Bytes) : bytes? (sextets bytes) = some bytes := by
  have hlt : ∀ b : UInt8, b.toNat < 256 := fun b => b.toNat_lt
  fun_induction sextets bytes with
  | case1 x y z rest a b c ih =>
      have hx : (a / 4 * 4 + (a % 4 * 16 + b / 16) / 16).toUInt8 = x :=
        toUInt8_eq (by have := hlt x; have := hlt y; omega)
      have hy : ((a % 4 * 16 + b / 16) % 16 * 16 + (b % 16 * 4 + c / 64) / 4).toUInt8 = y :=
        toUInt8_eq (by have := hlt y; have := hlt z; omega)
      have hz : ((b % 16 * 4 + c / 64) % 4 * 64 + c % 64).toUInt8 = z :=
        toUInt8_eq (by have := hlt z; omega)
      rw [bytes?, ih, hx, hy, hz]
      rfl
  | case2 x y =>
      have hx : (x.toNat / 4 * 4 + (x.toNat % 4 * 16 + y.toNat / 16) / 16).toUInt8 = x :=
        toUInt8_eq (by have := hlt x; have := hlt y; omega)
      have hy : ((x.toNat % 4 * 16 + y.toNat / 16) % 16 * 16 + y.toNat % 16 * 4 / 4).toUInt8 = y :=
        toUInt8_eq (by have := hlt y; omega)
      rw [bytes?, if_pos (by omega), hx, hy]
  | case3 x =>
      have hx : (x.toNat / 4 * 4 + x.toNat % 4 * 16 / 16).toUInt8 = x :=
        toUInt8_eq (by have := hlt x; omega)
      rw [bytes?, if_pos (by omega), hx]
  | case4 => rfl

theorem decode_encode {a : Alphabet} (ha : a.IsReadable) (bytes : Bytes) :
    decode a ((encode a bytes).map byte) = .ok bytes := by
  have hvalues := values_map_symbol ha ((encode a bytes).map byte).length 0
    (forall_sextets_lt bytes)
  rw [decode, encode, List.map_map]
  rw [encode, List.map_map] at hvalues
  simp only [Function.comp_def] at hvalues ⊢
  rw [hvalues]
  simp only [bytes?_sextets]

end Weblog.Base64
