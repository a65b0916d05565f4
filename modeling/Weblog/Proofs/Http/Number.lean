import Mathlib.Data.List.Induction
import Weblog.Http.Host
import Weblog.Proofs.Json.Scan
import Weblog.Proofs.Text.Ascii
import Weblog.Proofs.Text.Split

namespace Weblog.Host

open Weblog.Text

variable {cs name group : List Char} {c : Char} {base n : Nat} {pieces : List Nat}

theorem hexDigitValue_digitChar (hn : n < 16) : hexDigitValue (Nat.digitChar n) = n := by
  have hall : ∀ n : Fin 16, hexDigitValue (Nat.digitChar n) = n.val := by decide
  exact hall ⟨n, hn⟩

theorem isHexDigit_digitChar (hn : n < 16) : isHexDigit (Nat.digitChar n) = true := by
  have hall : ∀ n : Fin 16, isHexDigit (Nat.digitChar n) = true := by decide
  exact hall ⟨n, hn⟩

theorem ofDigits_append_singleton (base : Nat) (cs : List Char) (c : Char) :
    ofDigits base (cs ++ [c]) = base * ofDigits base cs + hexDigitValue c := by
  rw [ofDigits, List.foldl_append]
  rfl

theorem ofDigits_toDigits (hbase : 1 < base) (hmost : base ≤ 16) (n : Nat) :
    ofDigits base (Nat.toDigits base n) = n := by
  induction n using Nat.strongRecOn with
  | ind n ih =>
      rw [Nat.toDigits_eq_if hbase]
      split
      · rename_i hn
        have hvalue := hexDigitValue_digitChar (Nat.lt_of_lt_of_le hn hmost)
        simp [ofDigits, hvalue]
      · have hmod := Nat.mod_lt n (Nat.lt_of_succ_lt hbase)
        rw [ofDigits_append_singleton, ih _ (Nat.div_lt_self (by omega) hbase),
          hexDigitValue_digitChar (Nat.lt_of_lt_of_le hmod hmost)]
        exact Nat.div_add_mod n base

theorem isHexDigit_of_mem_toDigits (hc : c ∈ Nat.toDigits 16 n) : isHexDigit c = true := by
  induction n using Nat.strongRecOn with
  | ind n ih =>
      rw [Nat.toDigits_eq_if (by decide)] at hc
      split at hc
      · rename_i hn
        rw [List.mem_singleton.mp hc]
        exact isHexDigit_digitChar hn
      · rcases List.mem_append.mp hc with hc | hc
        · exact ih (n / 16) (by omega) hc
        · rw [List.mem_singleton.mp hc]
          exact isHexDigit_digitChar (Nat.mod_lt _ (by decide))

theorem isDigit_of_mem_toDigits (hc : c ∈ Nat.toDigits 10 n) : c.isDigit = true :=
  Nat.isDigit_of_mem_toDigits (by decide) (by decide) hc

theorem isHexDigit_iff : isHexDigit c = true ↔
    (0x30 ≤ c.toNat ∧ c.toNat ≤ 0x39) ∨ (0x61 ≤ c.toNat ∧ c.toNat ≤ 0x66) ∨
      (0x41 ≤ c.toNat ∧ c.toNat ≤ 0x46) := by
  simp only [isHexDigit, Bool.or_eq_true, Bool.and_eq_true, decide_eq_true_eq, isDigit_iff,
    or_assoc]
  exact Iff.rfl

theorem hexDigitValue_lt (hc : isHexDigit c = true) : hexDigitValue c < 16 := by
  rw [isHexDigit_iff] at hc
  rw [hexDigitValue]
  split
  · rename_i hdigit
    have := isDigit_iff.mp hdigit
    omega
  split
  · rename_i hupper
    have := isUpper_iff.mp hupper
    omega
  · rename_i hdigit hupper
    rw [isDigit_iff] at hdigit
    rw [isUpper_iff] at hupper
    omega

theorem ofDigits_lt (hcs : ∀ c ∈ cs, isHexDigit c = true) : ofDigits 16 cs < 16 ^ cs.length := by
  induction cs using List.reverseRecOn with
  | nil => decide
  | append_singleton cs c ih =>
      obtain ⟨hcs, hc⟩ := List.forall_mem_append.mp hcs
      have hvalue := hexDigitValue_lt (hc c (List.mem_singleton_self c))
      have hfront := ih hcs
      rw [ofDigits_append_singleton, List.length_append, List.length_singleton, Nat.pow_succ]
      omega

theorem number?_toDigits (n : Nat) : number? (Nat.toDigits 10 n) = some n := by
  have hall : (Nat.toDigits 10 n).all Char.isDigit = true :=
    List.all_eq_true.mpr fun c hc => isDigit_of_mem_toDigits hc
  have hvalue : ofDigits 10 (Nat.toDigits 10 n) = n := ofDigits_toDigits (by decide) (by decide) n
  rcases Nat.eq_zero_or_pos n with rfl | hn
  · rfl
  obtain ⟨d, hd, hpos, ds, hds, -⟩ := Json.exists_toDigits_eq_cons hn
  have hfirst : Nat.digitChar d ≠ '0' := by
    have hdigits : ∀ d : Fin 10, 0 < d.val → Nat.digitChar d ≠ '0' := by decide
    exact hdigits ⟨d, hd⟩ hpos
  rw [hds] at hall hvalue ⊢
  unfold number?
  split
  · rename_i heq
    exact nomatch heq
  iterate 3
    · rename_i heq
      exact absurd (List.cons.inj heq).1 hfirst
  · simp only [hall, hvalue, if_true]

theorem parts_ipv4Text (n : Nat) : parts (ipv4Text n) =
    [n / Nat.pow 256 3, n / Nat.pow 256 2 % 256, n / 256 % 256, n % 256].map (Nat.toDigits 10) := by
  have hsplit : splitAt '.' (ipv4Text n) =
      [n / Nat.pow 256 3, n / Nat.pow 256 2 % 256, n / 256 % 256, n % 256].map
        (Nat.toDigits 10) := by
    apply splitAt_intercalate
    · simp
    · intro part hpart hdot
      obtain ⟨m, -, rfl⟩ := List.mem_map.mp hpart
      exact absurd (isDigit_of_mem_toDigits hdot) (by decide)
  have hlast : (Nat.toDigits 10 (n % 256)).isEmpty = false := by
    simp
  simp [parts, hsplit, hlast]

theorem ipv4?_ipv4Text (hn : n < 2 ^ 32) : ipv4? (ipv4Text n) = some n := by
  have hnumbers : (parts (ipv4Text n)).mapM number? =
      some [n / Nat.pow 256 3, n / Nat.pow 256 2 % 256, n / 256 % 256, n % 256] := by
    rw [parts_ipv4Text, mapM_eq_some_iff, List.forall₂_map_left_iff, List.forall₂_same]
    exact fun m _ => number?_toDigits m
  rw [ipv4?, hnumbers]
  simp
  omega

theorem endsInNumber_ipv4Text (n : Nat) : endsInNumber (ipv4Text n) = true := by
  rw [endsInNumber, parts_ipv4Text]
  simp [number?_toDigits]

/-- The numbers from place `k` on, each at most 255, fill less than what the last number leaves. -/
theorem foldl_zipIdx_le {numbers : List Nat} {k : Nat} (hlength : k + numbers.length ≤ 3)
    (hnumbers : ∀ n ∈ numbers, n ≤ 255) (sum : Nat) :
    (numbers.zipIdx k).foldl (fun sum (n, i) => sum + n * Nat.pow 256 (3 - i)) sum +
      256 ^ (4 - (k + numbers.length)) ≤ sum + 256 ^ (4 - k) := by
  induction numbers generalizing k sum with
  | nil => exact Nat.le_refl _
  | cons n numbers ih =>
      obtain ⟨hn, hnumbers⟩ := List.forall_mem_cons.mp hnumbers
      rw [List.length_cons] at hlength ⊢
      have hrest := ih (k := k + 1) (by omega) hnumbers (sum + n * 256 ^ (3 - k))
      have hplace : 4 - k = 3 - k + 1 := by omega
      have hmore : n * 256 ^ (3 - k) ≤ 255 * 256 ^ (3 - k) := Nat.mul_le_mul_right _ hn
      rw [hplace, Nat.pow_succ]
      rw [Nat.add_assoc k 1, Nat.add_comm 1, Nat.add_sub_add_right 3 1 k] at hrest
      exact Nat.le_trans hrest (by omega)

theorem ipv4?_lt (h : ipv4? name = some n) : n < 2 ^ 32 := by
  obtain ⟨numbers, -, h⟩ := Option.bind_eq_some_iff.mp h
  obtain ⟨last, hlast, h⟩ := Option.bind_eq_some_iff.mp h
  simp only at h
  split at h
  · rename_i hfits
    obtain ⟨hlength, hfront, hless⟩ := hfits
    obtain rfl := Option.some.inj h
    have hthree : 0 + numbers.dropLast.length ≤ 3 := by
      rw [List.length_dropLast]
      omega
    have hle := foldl_zipIdx_le hthree (by simpa using hfront) last
    rw [Nat.zero_add] at hle
    exact Nat.lt_of_add_lt_add_right (Nat.lt_of_le_of_lt hle (by
      rw [Nat.add_comm]
      exact Nat.add_lt_add_left hless _))
  · exact nomatch h

end Weblog.Host
