import Mathlib.Data.List.TakeWhile
import Weblog.Http.Origin
import Weblog.Proofs.Http.Host

namespace Weblog.Origin

open Weblog.Text
open Weblog.Host

variable {cs host rest : List Char} {default : Option Nat}

theorem splitUser_of_notMem (hcs : '@' ∉ cs) : splitUser cs = (none, cs) := by
  rw [splitUser, splitLast?_eq_none hcs]

theorem splitUser_append (hrest : '@' ∉ rest) (user : List Char) :
    splitUser (user ++ '@' :: rest) = (some user, rest) := by
  rw [splitUser, splitLast?_append hrest]

/-- The text of a part with the sign behind it, if there is such a part. -/
def before (sign : Char) (part : Option (List Char)) : List Char :=
  (part.map (· ++ [sign])).getD []

/-- The text of a part with the sign before it, if there is such a part. -/
def behind (sign : Char) (part : Option (List Char)) : List Char :=
  (part.map (sign :: ·)).getD []

theorem of_splitUser {user : Option (List Char)} (h : splitUser cs = (user, rest)) :
    cs = before '@' user ++ rest ∧ '@' ∉ rest := by
  rw [splitUser] at h
  split at h
  · rename_i name after hsplit
    obtain ⟨rfl, rfl⟩ := Prod.mk.inj h
    obtain ⟨rfl, hafter⟩ := splitLast?_eq_some_iff.mp hsplit
    exact ⟨by simp [before], hafter⟩
  · rename_i hsplit
    obtain ⟨rfl, rfl⟩ := Prod.mk.inj h
    exact ⟨rfl, splitLast?_eq_none_iff.mp hsplit⟩

theorem splitUser_before {user : Option (List Char)} (hrest : '@' ∉ rest) :
    splitUser (before '@' user ++ rest) = (user, rest) := by
  cases user with
  | none => exact splitUser_of_notMem hrest
  | some user => simpa [before] using splitUser_append hrest user

/-- A bracket has been opened and not been closed. -/
def IsOpen (cs : List Char) : Prop :=
  ∃ outer inner, cs = outer ++ '[' :: inner ∧ ']' ∉ inner

/-- Whether a bracket is open after a text, if it was or was not before. -/
def opens (isOpen : Bool) : List Char → Bool
  | [] => isOpen
  | c :: rest => opens (if c = '[' then true else if c = ']' then false else isOpen) rest

theorem opens_append (isOpen : Bool) (cs ds : List Char) :
    opens isOpen (cs ++ ds) = opens (opens isOpen cs) ds := by
  induction cs generalizing isOpen with
  | nil => rfl
  | cons c cs ih => exact ih _

theorem isOpen_iff : IsOpen cs ↔ opens false cs = true := by
  have hkeeps : ∀ inner : List Char, ']' ∉ inner → opens true inner = true := by
    intro inner hinner
    induction inner with
    | nil => rfl
    | cons c inner ih =>
        obtain ⟨hc, hinner⟩ : ']' ≠ c ∧ ']' ∉ inner := by simpa using hinner
        rw [opens, if_neg (Ne.symm hc), ite_self]
        exact ih hinner
  constructor
  · rintro ⟨outer, inner, rfl, hinner⟩
    rw [opens_append]
    exact hkeeps inner hinner
  · intro h
    -- the last character decides, or leaves it to those before it
    induction cs using List.reverseRecOn with
    | nil => exact nomatch h
    | append_singleton cs c ih =>
        rw [opens_append] at h
        simp only [opens] at h
        by_cases hopen : c = '['
        · exact ⟨cs, [], by rw [hopen], List.not_mem_nil⟩
        rw [if_neg hopen] at h
        by_cases hclose : c = ']'
        · rw [if_pos hclose] at h
          exact nomatch h
        rw [if_neg hclose] at h
        obtain ⟨outer, inner, rfl, hinner⟩ := ih h
        refine ⟨outer, inner ++ [c], by simp, ?_⟩
        simpa using ⟨hinner, Ne.symm hclose⟩

/-- Each colon stands in brackets, if a bracket is open before the text or not. -/
def HidesColons (isOpen : Bool) (cs : List Char) : Prop :=
  ∀ front back, cs = front ++ ':' :: back → opens isOpen front = true

theorem of_splitPort {isOpen : Bool} {port : Option (List Char)}
    (h : splitPort isOpen cs = (host, port)) : cs = host ++ behind ':' port ∧
      HidesColons isOpen host ∧ (port.isSome = true → opens isOpen host = false) := by
  induction cs generalizing isOpen host with
  | nil =>
      obtain ⟨rfl, rfl⟩ := Prod.mk.inj h
      exact ⟨rfl, fun front back hnil => by simp at hnil, fun hsome => nomatch hsome⟩
  | cons c cs ih =>
      rw [splitPort] at h
      split at h
      · rename_i hcolon
        obtain ⟨rfl, rfl⟩ := Prod.mk.inj h
        exact ⟨by rw [hcolon.1]; rfl, fun front back hnil => by simp at hnil, fun _ => hcolon.2⟩
      · rename_i hcolon
        obtain ⟨rfl, rfl⟩ := Prod.mk.inj h
        obtain ⟨hcs, hhides, hclosed⟩ := ih rfl
        refine ⟨congrArg (c :: ·) hcs, ?_, hclosed⟩
        intro front back heq
        cases front with
        | nil =>
            have hc := (List.cons.inj heq).1
            exact Bool.of_not_eq_false fun hopen => hcolon ⟨hc, hopen⟩
        | cons d front =>
            obtain ⟨rfl, hrest⟩ := List.cons.inj heq
            exact hhides front back hrest

theorem splitPort_append {isOpen : Bool} (hhost : HidesColons isOpen host) (tail : List Char) :
    splitPort isOpen (host ++ tail) = (host ++ (splitPort (opens isOpen host) tail).1,
      (splitPort (opens isOpen host) tail).2) := by
  induction host generalizing isOpen with
  | nil => rfl
  | cons c host ih =>
      have hcolon : ¬ (c = ':' ∧ isOpen = false) := by
        rintro ⟨rfl, rfl⟩
        exact nomatch hhost [] host rfl
      rw [List.cons_append, splitPort, if_neg hcolon]
      simp only [ih fun front back heq => hhost (c :: front) back (congrArg (c :: ·) heq)]
      rfl

theorem splitPort_behind {port : Option (List Char)} (hhost : HidesColons false host)
    (hport : port.isSome = true → opens false host = false) :
    splitPort false (host ++ behind ':' port) = (host, port) := by
  rw [splitPort_append hhost]
  cases port with
  | none => simp [behind, splitPort]
  | some digits =>
      have hclosed := hport rfl
      simp [behind, hclosed, splitPort]

theorem hidesColons_cons {isOpen : Bool} {c : Char} (hc : c = ':' → isOpen = true)
    (hrest : HidesColons (if c = '[' then true else if c = ']' then false else isOpen) cs) :
    HidesColons isOpen (c :: cs) := by
  intro front back heq
  cases front with
  | nil => exact hc (List.cons.inj heq).1
  | cons d front =>
      obtain ⟨rfl, htail⟩ := List.cons.inj heq
      exact hrest front back htail

theorem hidesColons_nil (isOpen : Bool) : HidesColons isOpen [] := by
  intro front back heq
  simp at heq

theorem hidesColons_of_isHostChar (hcs : ∀ c ∈ cs, isHostChar c = true) :
    HidesColons false cs ∧ opens false cs = false := by
  induction cs with
  | nil => exact ⟨hidesColons_nil false, rfl⟩
  | cons c cs ih =>
      obtain ⟨hc, hcs⟩ := List.forall_mem_cons.mp hcs
      have hsigns : c ≠ ':' ∧ c ≠ '[' ∧ c ≠ ']' := by
        refine ⟨?_, ?_, ?_⟩ <;> (rintro rfl; exact absurd hc (by decide))
      obtain ⟨hcolon, hopen, hclose⟩ := hsigns
      obtain ⟨hhides, hclosed⟩ := ih hcs
      refine ⟨hidesColons_cons (fun heq => absurd heq hcolon) ?_, ?_⟩
      · rwa [if_neg hopen, if_neg hclose]
      · rwa [opens, if_neg hopen, if_neg hclose]

theorem hidesColons_in_brackets (hcs : ∀ c ∈ cs, isHexDigit c = true ∨ c = ':') :
    HidesColons true (cs ++ [']']) ∧ opens true (cs ++ [']']) = false := by
  induction cs with
  | nil => exact ⟨hidesColons_cons (fun heq => by simp at heq) (hidesColons_nil _), rfl⟩
  | cons c cs ih =>
      obtain ⟨hc, hcs⟩ := List.forall_mem_cons.mp hcs
      have hopen : (if c = '[' then true else if c = ']' then false else true) = true := by
        have hclose : c ≠ ']' := by
          rintro rfl
          exact absurd hc (by decide)
        rw [if_neg hclose, ite_self]
      obtain ⟨hhides, hclosed⟩ := ih hcs
      refine ⟨hidesColons_cons (fun _ => rfl) ?_, ?_⟩
      · rwa [hopen]
      · rwa [List.cons_append, opens, hopen]

theorem hidesColons_of_isSpelled (h : IsSpelled host) :
    HidesColons false host ∧ opens false host = false := by
  cases h with
  | name hcs => exact hidesColons_of_isHostChar hcs
  | number hinner =>
      obtain ⟨hhides, hclosed⟩ := hidesColons_in_brackets hinner
      exact ⟨hidesColons_cons (fun heq => by simp at heq) hhides, hclosed⟩

theorem ofDigits_eq_ofDigitChars (hcs : cs.all Char.isDigit = true) :
    ofDigits 10 cs = Nat.ofDigitChars 10 cs 0 := by
  have hfold : ∀ n, cs.foldl (fun n c => 10 * n + hexDigitValue c) n =
      Nat.ofDigitChars 10 cs n := by
    induction cs with
    | nil => exact fun _ => rfl
    | cons c cs ih =>
        obtain ⟨hc, hcs⟩ := Bool.and_eq_true_iff.mp hcs
        have hvalue : hexDigitValue c = c.toNat - '0'.toNat := by
          rw [hexDigitValue, if_pos hc]
          rfl
        intro n
        rw [List.foldl_cons, ih hcs, hvalue]
        rfl
  exact hfold 0

theorem of_port {n : Nat} (h : port default cs = .ok (some n)) :
    n ≤ greatestPort ∧ some n ≠ default := by
  simp only [port] at h
  split at h
  · rename_i hdigits
    split at h
    · exact nomatch h
    · rename_i hsaid
      obtain rfl := Option.some.inj (Except.ok.inj h)
      simp only [Bool.and_eq_true, decide_eq_true_eq] at hdigits
      simp only [Bool.or_eq_true, beq_iff_eq, not_or] at hsaid
      exact ⟨hdigits.2, hsaid.2⟩
  · exact nomatch h

theorem port_toDigits {n : Nat} (hmost : n ≤ greatestPort) (hsaid : some n ≠ default) :
    port default (Nat.toDigits 10 n) = .ok (some n) := by
  have hkeep : (Nat.toDigits 10 n).takeWhile (fun c => c != '\\') = Nat.toDigits 10 n := by
    rw [List.takeWhile_eq_self_iff]
    intro c hc
    rw [bne_iff_ne]
    rintro rfl
    exact absurd (isDigit_of_mem_toDigits hc) (by decide)
  have hall : (Nat.toDigits 10 n).all Char.isDigit = true :=
    List.all_eq_true.mpr fun c hc => isDigit_of_mem_toDigits hc
  have hvalue : ofDigits 10 (Nat.toDigits 10 n) = n := ofDigits_toDigits (by decide) (by decide) n
  simp [port, hkeep, hall, hvalue, hmost, hsaid]

/-- The port that an address names, or that goes without saying. -/
def effectivePort (default : Nat) : Option (List Char) → Nat
  | some (d :: ds) => Nat.ofDigitChars 10 (d :: ds) 0
  | _ => default

theorem of_port_some {default : Nat} {n : Option Nat} (hcs : '\\' ∉ cs)
    (h : port (some default) cs = .ok n) :
    n = if effectivePort default (some cs) = default then none
      else some (effectivePort default (some cs)) := by
  have hkeep : cs.takeWhile (fun c => c != '\\') = cs := by
    rw [List.takeWhile_eq_self_iff]
    intro c hc
    rw [bne_iff_ne]
    rintro rfl
    exact hcs hc
  simp only [port, hkeep] at h
  split at h
  · rename_i hdigits
    rw [ofDigits_eq_ofDigitChars (Bool.and_eq_true_iff.mp hdigits).1] at h
    rw [← Except.ok.inj h]
    cases cs with
    | nil => simp [effectivePort]
    | cons d ds =>
        by_cases hsame : Nat.ofDigitChars 10 (d :: ds) 0 = default <;>
          simp [effectivePort, hsame]
  · exact nomatch h

end Weblog.Origin
