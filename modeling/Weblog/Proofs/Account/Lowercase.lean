import Weblog.Proofs.Account.Login
import Weblog.Proofs.Text.Lowercase

/-!
Email addresses in lowercase. Every address of an account is one of ASCII once it is in lowercase,
as the rule for addresses puts it there after the Unicode standard, and accounts are told apart by
addresses without regard to the case of letters of ASCII. The two disagree on one character, the
Kelvin sign, whose lowercase form is the letter k.
-/

namespace Weblog

namespace Text

/-- The text with the letter for the sign. -/
def withoutKelvin (cs : List Char) : List Char :=
  cs.map fun c => if c = kelvinSign then 'k' else c

theorem lower_eq_of_ascii {cs : List Char} (h : ∀ c ∈ lower cs, c.toNat < 0x80) :
    lower cs = (withoutKelvin cs).map Char.toLower := by
  have hsigma : 'Σ' ∉ cs := by
    intro hmem
    obtain ⟨c, hc, hcode⟩ := exists_mem_lowerAfter hmem []
    exact Nat.not_lt.mpr hcode (h c hc)
  rw [lower, lowerAfter_eq_flatMap hsigma] at h ⊢
  clear hsigma
  induction cs with
  | nil => rfl
  | cons c cs ih =>
      rw [List.flatMap_cons, List.forall_mem_append] at h
      have hchar : lowerChar c = [(if c = kelvinSign then 'k' else c).toLower] := by
        by_cases hc : c.toNat < 0x80
        · have hne : c ≠ kelvinSign := by
            rintro rfl
            exact absurd hc (by decide)
          rw [lowerChar, if_pos hc, if_neg hne]
        · rw [eq_kelvinSign_of_lowerChar (Nat.not_lt.mp hc) h.1, lowerChar_kelvinSign]
          rfl
      rw [List.flatMap_cons, ih h.2, hchar]
      rfl

theorem withoutKelvin_of_notMem {cs : List Char} (h : kelvinSign ∉ cs) : withoutKelvin cs = cs := by
  rw [withoutKelvin, List.map_congr_left (g := id), List.map_id]
  rintro c hc
  refine if_neg ?_
  rintro rfl
  exact h hc

end Text

open Text

theorem lowercase_eq_iff {a b : String} (ha : isEmail a = true) (hb : isEmail b = true) :
    lowercase a = lowercase b ↔
      CaseVariant (withoutKelvin a.toList) (withoutKelvin b.toList) := by
  rw [lowercase, lowercase, String.ofList_inj, lower_eq_of_ascii (isAscii_of_isEmail ha),
    lower_eq_of_ascii (isAscii_of_isEmail hb), map_toLower_eq_iff]

/-- Every email address that the statement writes is one. -/
def Statement.WritesEmails : Statement → Prop
  | .insertUser _ email _ _ => isEmail email = true
  | .updateUser _ changes _ => ∀ email ∈ changes.email, isEmail email = true
  | _ => True

theorem Visit.Warrants.writesEmails {v : Visit} {q : Statement} (h : v.Warrants q) :
    q.WritesEmails := by
  cases q with
  | insertUser => exact h.1
  | updateUser => exact h.1
  | _ => trivial

theorem Statement.WritesEmails.after {q : Statement} {s : Store} (hq : q.WritesEmails)
    (hs : ∀ u ∈ s.users, isEmail u.email = true) :
    ∀ u ∈ (q.after s).users, isEmail u.email = true := by
  refine forall_users_after ?_ ?_ hs
  · rintro id username email passwordHash now rfl
    exact hq
  · rintro id changes now u rfl hu
    cases hnew : changes.email with
    | none => simpa [Store.changeUser, hnew] using hu
    | some email => simpa [Store.changeUser, hnew] using hq email hnew

theorem Reachable.isEmail {s : Store} (hs : Reachable s) : ∀ u ∈ s.users, isEmail u.email = true :=
  hs.of_calls (I := fun s => ∀ u ∈ s.users, Weblog.isEmail u.email = true)
    (List.forall_mem_nil _) fun _ _ _ hq hs => hq.warrants.writesEmails.after hs

/-- Two accounts have the same email address in lowercase if and only if the addresses differ in the
case of letters of ASCII once the letter k stands for every Kelvin sign, of which they have one. -/
theorem same_lowercase_iff {s : Store} (hs : Reachable s) :
    ∀ u ∈ s.users, ∀ v ∈ s.users, u ≠ v →
      (lowercase u.email = lowercase v.email ↔
        (kelvinSign ∈ u.email.toList ∨ kelvinSign ∈ v.email.toList) ∧
          CaseVariant (withoutKelvin u.email.toList) (withoutKelvin v.email.toList)) := by
  intro u hu v hv hne
  rw [lowercase_eq_iff (hs.isEmail u hu) (hs.isEmail v hv), iff_and_self]
  intro hvariant
  by_contra hnone
  rw [not_or] at hnone
  rw [withoutKelvin_of_notMem hnone.1, withoutKelvin_of_notMem hnone.2,
    ← eqIgnoringCase_iff] at hvariant
  exact hne (hs.sound.eq_of_equalFold hu hv (equalFold_of_eqIgnoringCase hvariant))

namespace Sample

/-- Two register with one address, the second with a Kelvin sign in the place of the letter. -/
def lookalikes : List Visit :=
  [("alice", "k@b.co"), ("bob", "\u212a@b.co")].map fun (username, email) =>
    ⟨app, moment, .post, "/api/users", "", asJson,
      body "user" [("username", username), ("email", email), ("password", "secret")]⟩

theorem users_lookalikes : (Store.visited lookalikes).users =
    [⟨1, "alice", "k@b.co", "secret", "", "", moment.now, moment.now⟩,
      ⟨2, "bob", "\u212a@b.co", "secret", "", "", moment.now, moment.now⟩] := by
  decide +kernel

end Sample

open Sample in
theorem same_lowercase_lookalikes : lowercase "k@b.co" = lowercase "\u212a@b.co" := by
  have hs := (Store.served_visited lookalikes).reachable
  refine (same_lowercase_iff hs ⟨1, "alice", "k@b.co", "secret", "", "", moment.now, moment.now⟩
    ?_ ⟨2, "bob", "\u212a@b.co", "secret", "", "", moment.now, moment.now⟩ ?_ ?_).mpr ⟨?_, ?_⟩
  · rw [users_lookalikes]
    exact List.mem_cons_self
  · rw [users_lookalikes]
    exact List.mem_cons_of_mem _ List.mem_cons_self
  · nofun
  · decide
  · rw [← map_toLower_eq_iff]
    decide

open Sample in
theorem not_lowercase_emails_differ :
    ¬ ∀ s, Reachable s → ∀ u ∈ s.users, ∀ v ∈ s.users,
      lowercase u.email = lowercase v.email → u = v := by
  intro hdiffer
  have hs := (Store.served_visited lookalikes).reachable
  have hmem := hdiffer _ hs
  rw [users_lookalikes] at hmem
  have hsame := hmem _ List.mem_cons_self _ (List.mem_cons_of_mem _ List.mem_cons_self)
    (by decide)
  exact absurd (congrArg User.username hsame) (by decide)

end Weblog
