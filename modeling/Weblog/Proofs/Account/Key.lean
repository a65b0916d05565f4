import Mathlib.Data.List.Basic
import Weblog.Service.Handler

namespace Weblog

section

variable {α : Type} {a : α} {l m : List α} {n : ℕ}

theorem take_concat_eq_iff_of_length_eq (hm : m.length = n) :
    (l ++ [a]).take n = (m ++ [a]).take n ↔ m <+: l ∨ m = l ++ [a] := by
  have hself : (m ++ [a]).take n = m := by rw [← hm, List.take_left]
  rw [hself, eq_comm, ← hm, ← List.prefix_iff_eq_take, List.prefix_concat_iff, or_comm]

theorem take_concat_eq_iff_of_length_lt (hm : m.length < n) :
    (l ++ [a]).take n = (m ++ [a]).take n ↔ l = m ∨ m.length + 1 = n ∧ m ++ [a] <+: l := by
  have hself : (m ++ [a]).take n = m ++ [a] := List.take_of_length_le (by simpa [Nat.succ_le_iff] using hm)
  rw [hself]
  by_cases hl : l.length < n
  · rw [List.take_of_length_le (by simpa [Nat.succ_le_iff] using hl), List.append_left_inj]
    constructor
    · exact .inl
    · rintro (rfl | ⟨hlength, hprefix⟩)
      · rfl
      · have hle := hprefix.length_le
        rw [List.length_append, List.length_singleton] at hle
        omega
  · have hcut : (l ++ [a]).take n = l.take n := List.take_append_of_le_length (Nat.not_lt.mp hl)
    rw [hcut]
    constructor
    · intro heq
      have hlength := congrArg List.length heq
      rw [List.length_take_of_le (Nat.not_lt.mp hl), List.length_append,
        List.length_singleton] at hlength
      exact .inr ⟨hlength.symm, heq ▸ List.take_prefix n l⟩
    · rintro (rfl | ⟨hlength, hprefix⟩)
      · exact absurd hm hl
      · have hprefix' := List.prefix_iff_eq_take.mp hprefix
        rw [List.length_append, List.length_singleton, hlength] at hprefix'
        exact hprefix'.symm

end

namespace Utf8

theorem length_encode (s : String) : (encode s).length = s.utf8ByteSize := rfl

theorem encode_inj {s t : String} : encode s = encode t ↔ s = t := by
  constructor
  · intro h
    refine String.toByteArray_inj.mp (ByteArray.ext (Array.toList_inj.mp h))
  · exact congrArg encode

end Utf8

namespace Bcrypt

/-- What is read of a password, which its key repeats. -/
def cut (password : String) : Bytes :=
  (Utf8.encode password ++ [0]).take keyBytes

theorem verify_eq_of_key_eq {given stored : String} (h : key given = key stored) (hash : String) :
    verify given hash = verify stored hash := by
  simp only [verify, digest, h]

/-- A password that is compared passes for one that has been set if it is the same; but where the
one that has been set leaves no place in the key, what comes after the key does not count, and
neither does a zero byte that is its last. -/
def PassesFor (given stored : String) : Prop :=
  given = stored ∨
    stored.utf8ByteSize = keyBytes ∧
      (Utf8.encode stored <+: Utf8.encode given ∨ Utf8.encode stored = Utf8.encode given ++ [0]) ∨
    stored.utf8ByteSize + 1 = keyBytes ∧ Utf8.encode stored ++ [0] <+: Utf8.encode given

theorem cut_eq_iff {given stored : String} (hstored : stored.utf8ByteSize ≤ keyBytes) :
    cut given = cut stored ↔ PassesFor given stored := by
  rw [cut, cut, PassesFor]
  rw [← Utf8.length_encode] at hstored ⊢
  rcases Nat.lt_or_eq_of_le hstored with hlt | heq
  · rw [take_concat_eq_iff_of_length_lt hlt, Utf8.encode_inj]
    constructor
    · rintro (rfl | hlast)
      · exact .inl rfl
      · exact .inr (.inr hlast)
    · rintro (rfl | ⟨heq, -⟩ | hlast)
      · exact .inl rfl
      · exact absurd heq (Nat.ne_of_lt hlt)
      · exact .inr hlast
  · rw [take_concat_eq_iff_of_length_eq heq]
    constructor
    · exact fun hfull => .inr (.inl ⟨heq, hfull⟩)
    · rintro (rfl | ⟨-, hfull⟩ | ⟨hlast, -⟩)
      · exact .inl (List.prefix_refl _)
      · exact hfull
      · omega

end Bcrypt

/-- Passwords are compared by what is read of them. That is less than `Bcrypt.scheme` does, whose keys
repeat what is read, so that two passwords with a zero byte may have one key. -/
structure PasswordScheme.ComparesCuts (passwords : PasswordScheme) : Prop where
  verify_iff : ∀ {salt cost password passwordHash given},
    passwords.hash salt cost password = .ok passwordHash →
      (passwords.verify given passwordHash = .ok true ↔ Bcrypt.cut given = Bcrypt.cut password)

theorem utf8ByteSize_le_of_passwordFault {password : String} (h : passwordFault password = none) :
    password.utf8ByteSize ≤ Bcrypt.keyBytes := by
  simp only [passwordFault] at h
  split at h
  · exact nomatch h
  split at h
  · exact nomatch h
  split at h
  · exact nomatch h
  split at h
  · exact nomatch h
  · rename_i hle
    exact Nat.not_lt.mp hle

theorem isEmpty_of_passwordFault {password : String} (h : passwordFault password = none) :
    password.isEmpty = false := by
  cases hempty : password.isEmpty with
  | false => rfl
  | true => simp [passwordFault, hempty] at h

end Weblog
