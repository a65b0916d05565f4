import Weblog.Proofs.Account.Key
import Weblog.Proofs.Bcrypt

namespace Weblog

namespace Bcrypt

variable {n : ℕ} {bytes stream : Bytes}

/-- The stream begins with the bytes, and behind them it begins again. -/
def StartsOver (stream bytes : Bytes) : Prop :=
  bytes <+: stream ∧ stream.drop bytes.length <+: stream

theorem length_cycled (n : ℕ) (bytes : Bytes) : (cycled n bytes).length = n := by
  rw [cycled, List.length_map, List.length_range]

theorem getElem?_cycled (hne : bytes ≠ []) {i : ℕ} (hi : i < n) :
    (cycled n bytes)[i]? = bytes[i % bytes.length]? := by
  have hmod : i % bytes.length < bytes.length := Nat.mod_lt i (List.length_pos_of_ne_nil hne)
  rw [cycled, List.getElem?_map, List.getElem?_range hi, Option.map_some, List.getD_eq_getElem?_getD,
    List.getElem?_eq_getElem hmod, Option.getD_some]

theorem startsOver_cycled (hne : bytes ≠ []) (hle : bytes.length ≤ n) :
    StartsOver (cycled n bytes) bytes := by
  constructor
  · apply List.prefix_iff_getElem?.mpr
    intro i hi
    rw [getElem?_cycled hne (Nat.lt_of_lt_of_le hi hle), Nat.mod_eq_of_lt hi,
      List.getElem?_eq_getElem hi]
  · apply List.prefix_iff_getElem?.mpr
    intro i hi
    rw [List.length_drop, length_cycled] at hi
    rw [← List.getElem?_eq_getElem, List.getElem?_drop, getElem?_cycled hne (by omega),
      getElem?_cycled hne (by omega), Nat.add_mod_left]

/-- A stream that starts over is determined by the bytes it begins with. -/
theorem getElem?_of_startsOver (h : StartsOver stream bytes) (hne : bytes ≠ []) {i : ℕ}
    (hi : i < stream.length) : stream[i]? = bytes[i % bytes.length]? := by
  have hpos := List.length_pos_of_ne_nil hne
  induction i using Nat.strong_induction_on with
  | h i ih =>
      by_cases hlt : i < bytes.length
      · rw [Nat.mod_eq_of_lt hlt, List.getElem?_eq_getElem hlt]
        exact List.prefix_iff_getElem?.mp h.1 i hlt
      · -- behind the bytes the stream is as it was at its beginning
        have hback : i - bytes.length < (stream.drop bytes.length).length := by
          rw [List.length_drop]
          omega
        have hagain := List.prefix_iff_getElem?.mp h.2 (i - bytes.length) hback
        rw [← List.getElem?_eq_getElem hback, List.getElem?_drop,
          Nat.add_sub_cancel' (Nat.not_lt.mp hlt)] at hagain
        rw [← hagain, ih (i - bytes.length) (by omega) (by omega),
          ← Nat.mod_eq_sub_mod (Nat.not_lt.mp hlt)]

theorem cycled_eq_iff {bytes' : Bytes} (hne : bytes' ≠ []) (hle : bytes'.length ≤ n) :
    cycled n bytes = cycled n bytes' ↔ StartsOver (cycled n bytes) bytes' := by
  constructor
  · intro h
    rw [h]
    exact startsOver_cycled hne hle
  · intro h
    apply List.ext_getElem?
    intro i
    by_cases hi : i < n
    · rw [getElem?_of_startsOver h hne (by rwa [length_cycled]), getElem?_cycled hne hi]
    · rw [List.getElem?_eq_none (by rw [length_cycled]; omega),
        List.getElem?_eq_none (by rw [length_cycled]; omega)]

variable {p q : String}

theorem cut_ne_nil (password : String) : cut password ≠ [] := by
  rw [cut, ne_eq, List.take_eq_nil_iff]
  simp [keyBytes]

theorem length_cut_le (password : String) : (cut password).length ≤ keyBytes :=
  List.length_take_le _ _

theorem key_eq_iff_startsOver : key p = key q ↔ StartsOver (key p) (cut q) :=
  cycled_eq_iff (cut_ne_nil q) (length_cut_le q)

theorem cut_prefix_key (password : String) : cut password <+: key password :=
  (startsOver_cycled (cut_ne_nil password) (length_cut_le password)).1

theorem encode_append_nul (password : String) :
    Utf8.encode password ++ [0] = Utf8.bytes (password.toList ++ ['\x00']) := by
  rw [Utf8.encode_eq_bytes, Utf8.bytes_append]
  rfl

theorem encode_prefix_key {password : String} (h : password.utf8ByteSize ≤ keyBytes) :
    Utf8.encode password <+: key password := by
  refine List.IsPrefix.trans ?_ (cut_prefix_key password)
  rw [cut, List.prefix_take_iff]
  exact ⟨List.prefix_append _ _, h⟩

theorem nul_prefix_of_key_eq (hq : q.utf8ByteSize ≤ keyBytes)
    (hlt : p.utf8ByteSize < q.utf8ByteSize) (h : key p = key q) :
    p.toList ++ ['\x00'] <+: q.toList := by
  have hlength : (Utf8.encode p ++ [0]).length ≤ (Utf8.encode q).length := by
    rw [List.length_append, List.length_singleton]
    exact hlt
  have hcut : cut p = Utf8.encode p ++ [0] :=
    List.take_of_length_le (hlength.trans hq)
  have hshorter : Utf8.encode p ++ [0] <+: key q := h ▸ hcut ▸ cut_prefix_key p
  have hbegins := List.prefix_of_prefix_length_le hshorter (encode_prefix_key hq) hlength
  rwa [encode_append_nul, Utf8.encode_eq_bytes, Utf8.bytes_prefix_iff] at hbegins

theorem eq_of_key_eq (hp : p.utf8ByteSize ≤ keyBytes) (hq : q.utf8ByteSize ≤ keyBytes)
    (hsize : p.utf8ByteSize = q.utf8ByteSize) (h : key p = key q) : p = q := by
  have hshorter : Utf8.encode p <+: key q := h ▸ encode_prefix_key hp
  have hbegins := List.prefix_of_prefix_length_le hshorter (encode_prefix_key hq) hsize.le
  exact Utf8.encode_inj.mp (hbegins.eq_of_length hsize)

/-- The longer password has a zero byte behind the shorter one, and runs on as the key of that. -/
structure RunsOn (shorter longer : String) : Prop where
  begins : shorter.toList ++ ['\x00'] <+: longer.toList
  startsOver : StartsOver (key shorter) (cut longer)

theorem key_eq_iff (hp : p.utf8ByteSize ≤ keyBytes) (hq : q.utf8ByteSize ≤ keyBytes) :
    key p = key q ↔ p = q ∨ RunsOn p q ∨ RunsOn q p := by
  constructor
  · intro h
    rcases Nat.lt_trichotomy p.utf8ByteSize q.utf8ByteSize with hlt | heq | hgt
    · exact .inr (.inl ⟨nul_prefix_of_key_eq hq hlt h, key_eq_iff_startsOver.mp h⟩)
    · exact .inl (eq_of_key_eq hp hq heq h)
    · exact .inr (.inr ⟨nul_prefix_of_key_eq hp hgt h.symm, key_eq_iff_startsOver.mp h.symm⟩)
  · rintro (rfl | hpq | hqp)
    · rfl
    · exact key_eq_iff_startsOver.mpr hpq.startsOver
    · exact (key_eq_iff_startsOver.mpr hqp.startsOver).symm

theorem RunsOn.nul_mem (h : RunsOn p q) : '\x00' ∈ q.toList :=
  h.begins.subset (List.mem_append_right _ (List.mem_singleton_self _))

theorem verify_hash_of_key_eq (h : key p = key q) {salt : Bytes} (hsalt : salt.length = 16)
    {cost : ℕ} {passwordHash : String} (hhash : hash salt cost q = .ok passwordHash) :
    verify p passwordHash = .ok true := by
  rw [verify_eq_of_key_eq h, verify_hash hsalt hhash, beq_self_eq_true]

theorem runsOn_secret : RunsOn "secret" "secret\x00secret" := by
  constructor
  · decide
  · constructor
    · decide
    · decide

end Bcrypt

open Bcrypt

/-- Two passwords that may be set have the same key exactly if they are the same, or one of them
runs on behind a zero byte as the key of the other does; without zero bytes no two have. Where they
have the same key, each passes for the other, whatever the salt and the cost. -/
theorem same_key_iff {p q : String} (hp : passwordFault p = none) (hq : passwordFault q = none) :
    (key p = key q ↔ p = q ∨ RunsOn p q ∨ RunsOn q p) ∧
      ('\x00' ∉ p.toList → '\x00' ∉ q.toList → (key p = key q ↔ p = q)) ∧
      (key p = key q → ∀ (salt : Bytes) (cost : ℕ) (passwordHash : String), salt.length = 16 →
        hash salt cost q = .ok passwordHash → verify p passwordHash = .ok true) := by
  have hiff := key_eq_iff (utf8ByteSize_le_of_passwordFault hp)
    (utf8ByteSize_le_of_passwordFault hq)
  refine ⟨hiff, ?_, ?_⟩
  · intro hnulp hnulq
    rw [hiff, or_iff_left]
    rintro (hpq | hqp)
    · exact hnulq hpq.nul_mem
    · exact hnulp hqp.nul_mem
  · intro h salt cost passwordHash hsalt hhash
    exact verify_hash_of_key_eq h hsalt hhash

theorem same_key_iff_secret :
    passwordFault "secret" = none ∧ passwordFault "secret\x00secret" = none ∧
      key "secret" = key "secret\x00secret" ∧
      ∀ (salt : Bytes) (cost : ℕ) (passwordHash : String), salt.length = 16 →
        hash salt cost "secret\x00secret" = .ok passwordHash →
          verify "secret" passwordHash = .ok true := by
  have hshorter : passwordFault "secret" = none := by decide
  have hlonger : passwordFault "secret\x00secret" = none := by decide
  obtain ⟨hiff, -, hverify⟩ := same_key_iff hshorter hlonger
  have hkey := hiff.mpr (.inr (.inl runsOn_secret))
  exact ⟨hshorter, hlonger, hkey, hverify hkey⟩

theorem not_every_byte_counts :
    ¬ ∀ p q : String, passwordFault p = none → passwordFault q = none → p ≠ q → key p ≠ key q := by
  intro h
  refine h "secret" "secret\x00secret" (by decide) (by decide) (by decide) ?_
  exact key_eq_iff_startsOver.mpr runsOn_secret.startsOver

end Weblog
