import Weblog.Proofs.Http.Authority
import Weblog.Proofs.Http.Letters

namespace Weblog.Origin

open Weblog.Text
open Weblog.Host

variable {cs host rest tail : List Char} {scheme origin : String} {isSpecial : Bool}

theorem scheme?_append {s : List Char} (hchars : ∀ c ∈ s, isSchemeChar c = true)
    (hhead : s.head?.any Char.isAlpha = true) (rest : List Char) :
    scheme? (s ++ ':' :: rest) = some (String.ofList (s.map Char.toLower), rest) := by
  have hcolon : isSchemeChar ':' = false := by decide
  have hend : ∀ c ∈ (':' :: rest).head?, isSchemeChar c = false := by simp [hcolon]
  obtain ⟨htake, hdrop⟩ := takeWhile_append hchars hend
  have hhead' : (s ++ ':' :: rest).head?.any Char.isAlpha = true := by
    cases s with
    | nil => exact nomatch hhead
    | cons c s => exact hhead
  rw [scheme?, hdrop]
  simp only [htake, hhead', if_true]

theorem of_scheme? (h : scheme? cs = some (scheme, rest)) :
    ∃ s, cs = s ++ ':' :: rest ∧ (∀ c ∈ s, isSchemeChar c = true) ∧
      s.head?.any Char.isAlpha = true ∧ scheme = String.ofList (s.map Char.toLower) := by
  rw [scheme?] at h
  split at h
  · rename_i after hdrop
    split at h
    · rename_i hhead
      obtain ⟨rfl, rfl⟩ := Prod.mk.inj (Option.some.inj h)
      have hcs : cs = cs.takeWhile isSchemeChar ++ ':' :: after := by
        rw [← hdrop, List.takeWhile_append_dropWhile]
      refine ⟨_, hcs, fun c hc => List.mem_takeWhile_imp hc, ?_, rfl⟩
      cases cs with
      | nil => exact nomatch hhead
      | cons c cs =>
          have hc : isSchemeChar c = true := by
            rw [isSchemeChar, Char.isAlphanum, show c.isAlpha = true from hhead]
            rfl
          rw [List.takeWhile_cons_of_pos hc]
          exact hhead
    · exact nomatch h
  · exact nomatch h

/-- The parts of an address that name a host, and what stands behind them. -/
structure Authority where
  user : Option (List Char)
  host : List Char
  port : Option (List Char)
  tail : List Char

namespace Authority

variable {a : Authority}

/-- The text of the parts: a user before the host, and a port behind it. -/
def text (a : Authority) : List Char :=
  before '@' a.user ++ (a.host ++ behind ':' a.port)

/-- The parts can be told from each other. -/
structure IsClear (isSpecial : Bool) (a : Authority) : Prop where
  host : a.host ≠ []
  text : ∀ c ∈ a.text, endsAuthority isSpecial c = false
  tail : ∀ c ∈ a.tail.head?, endsAuthority isSpecial c = true
  user : '@' ∉ a.host ++ behind ':' a.port
  colons : ∀ front back, a.host = front ++ ':' :: back → IsOpen front
  port : a.port.isSome = true → ¬ IsOpen a.host

namespace IsClear

theorem takeWhile_text (h : a.IsClear isSpecial) :
    (a.text ++ a.tail).takeWhile (!endsAuthority isSpecial ·) = a.text :=
  (takeWhile_append (by simpa using h.text) (by simpa using h.tail)).1

theorem splitUser_text (h : a.IsClear isSpecial) :
    splitUser a.text = (a.user, a.host ++ behind ':' a.port) :=
  splitUser_before h.user

theorem splitPort_text (h : a.IsClear isSpecial) :
    splitPort false (a.host ++ behind ':' a.port) = (a.host, a.port) := by
  apply splitPort_behind
  · exact fun front back heq => isOpen_iff.mp (h.colons front back heq)
  · exact fun hsome => Bool.eq_false_iff.mpr fun hopen => h.port hsome (isOpen_iff.mpr hopen)

theorem eq_of_append_eq {b : Authority} (ha : a.IsClear isSpecial) (hb : b.IsClear isSpecial)
    (h : a.text ++ a.tail = b.text ++ b.tail) : a = b := by
  have htext : a.text = b.text := by rw [← ha.takeWhile_text, h, hb.takeWhile_text]
  have htail : a.tail = b.tail := List.append_cancel_left (htext ▸ h)
  have huser : (a.user, a.host ++ behind ':' a.port) = (b.user, b.host ++ behind ':' b.port) := by
    rw [← ha.splitUser_text, htext, hb.splitUser_text]
  obtain ⟨huser, hrest⟩ := Prod.mk.inj huser
  have hport : (a.host, a.port) = (b.host, b.port) := by
    rw [← ha.splitPort_text, hrest, hb.splitPort_text]
  obtain ⟨hhost, hport⟩ := Prod.mk.inj hport
  cases a
  cases b
  simp only at huser hhost hport htail
  rw [huser, hhost, hport, htail]

end IsClear

end Authority

/-- The number of a port that is given, if it must be said. -/
def givenPort (default : Option Nat) : Option (List Char) → Except Fault (Option Nat)
  | some digits => port default digits
  | none => .ok none

/-- How an origin is written. -/
def written (scheme : String) (host : List Char) (port : Option Nat) : String :=
  scheme ++ "://" ++ String.ofList (host ++ behind ':' (port.map (Nat.toDigits 10)))

/-- The host in its one spelling, by the rules for the scheme. -/
def hostFor (scheme : String) (host : List Char) : Except Fault (List Char) :=
  if (defaultPorts.lookup scheme).isSome then special host else plain host

theorem ofAuthority_text (scheme : String) {a : Authority}
    (h : a.IsClear (defaultPorts.lookup scheme).isSome) :
    ofAuthority scheme (a.text ++ a.tail) = (hostFor scheme a.host).bind fun host =>
      (givenPort (defaultPorts.lookup scheme) a.port).bind fun n =>
        .ok (if host.isEmpty then none else some (written scheme host n)) := by
  have hne : (a.host ++ behind ':' a.port).isEmpty = false := by
    simp [h.host]
  have hhost : a.host.isEmpty = false := by simp [h.host]
  simp only [ofAuthority, h.takeWhile_text, h.splitUser_text, h.splitPort_text, hne, hhost,
    Bool.false_eq_true, false_and, and_false, if_false, Bool.false_and, hostFor]
  split
  all_goals
    refine congrArg (Except.bind _) (funext fun host => ?_)
    cases a.port with
    | none => rfl
    | some digits =>
        refine congrArg (Except.bind _) (funext fun n => ?_)
        cases n with
        | none => rfl
        | some n => rfl

theorem exists_of_ofAuthority (h : ofAuthority scheme cs = .ok (some origin)) :
    ∃ a : Authority, a.IsClear (defaultPorts.lookup scheme).isSome ∧ cs = a.text ++ a.tail := by
  generalize hspecial : (defaultPorts.lookup scheme).isSome = isSpecial
  generalize htext : cs.takeWhile (!endsAuthority isSpecial ·) = text
  obtain ⟨⟨user, rest⟩, huser⟩ : ∃ split, splitUser text = split := ⟨_, rfl⟩
  obtain ⟨⟨host, port⟩, hport⟩ : ∃ split, splitPort false rest = split := ⟨_, rfl⟩
  obtain ⟨hcs, hat⟩ := of_splitUser huser
  obtain ⟨hrest, hhides, hclosed⟩ := of_splitPort hport
  refine ⟨⟨user, host, port, cs.dropWhile (!endsAuthority isSpecial ·)⟩, ?_, ?_⟩
  · constructor
    · rintro rfl
      simp only [ofAuthority, hspecial, htext, huser, hport] at h
      split at h
      · exact nomatch h
      split at h
      · exact nomatch h
      · rename_i hempty
        simp only [List.isEmpty_nil, Bool.true_and, Bool.or_eq_true, not_or] at hempty
        obtain ⟨⟨hgeneral, hnone⟩, -⟩ := hempty
        rw [if_neg hgeneral] at h
        cases port with
        | some digits => exact absurd rfl hnone
        | none => exact nomatch h
    · intro c hc
      simp only [Authority.text, ← hrest, ← hcs, ← htext] at hc
      simpa using List.mem_takeWhile_imp hc
    · intro c hc
      have hstop := List.head?_dropWhile_not (!endsAuthority isSpecial ·) cs
      rw [hc] at hstop
      simpa using hstop
    · rwa [hrest] at hat
    · exact fun front back heq => isOpen_iff.mpr (hhides front back heq)
    · intro hsome hopen
      exact absurd (isOpen_iff.mp hopen) (by rw [hclosed hsome]; exact Bool.false_ne_true)
  · simp only [Authority.text, ← hrest, ← hcs, ← htext, List.takeWhile_append_dropWhile]

/-- A scheme in small letters. -/
structure IsScheme (s : List Char) : Prop where
  chars : ∀ c ∈ s, isSchemeChar c = true
  head : s.head?.any Char.isAlpha = true
  lower : s.map Char.toLower = s

theorem of_isSchemeChar {c : Char} (hc : isSchemeChar c = true) :
    (0x20 < c.toNat ∧ c.toNat < 0x7F) ∧ isSchemeChar c.toLower = true ∧
      c.toLower.isAlpha = c.isAlpha := by
  have hall : ∀ c : Char, c.toNat < 0x80 → isSchemeChar c = true →
      (0x20 < c.toNat ∧ c.toNat < 0x7F) ∧ isSchemeChar c.toLower = true ∧
        c.toLower.isAlpha = c.isAlpha :=
    forall_ascii (by decide)
  have hascii : c.toNat < 0x80 := by
    simp only [isSchemeChar, Char.isAlphanum, Bool.or_eq_true, isAlpha_iff, isUpper_iff,
      isLower_iff, isDigit_iff, beq_iff_eq] at hc
    rcases hc with ((((hc | hc) | hc) | rfl) | rfl) | rfl
    all_goals first | omega | decide
  exact hall c hascii hc

theorem isScheme_map_toLower {s : List Char} (hchars : ∀ c ∈ s, isSchemeChar c = true)
    (hhead : s.head?.any Char.isAlpha = true) : IsScheme (s.map Char.toLower) := by
  constructor
  · intro c hc
    obtain ⟨d, hd, rfl⟩ := List.mem_map.mp hc
    exact (of_isSchemeChar (hchars d hd)).2.1
  · cases s with
    | nil => exact nomatch hhead
    | cons c s => exact (of_isSchemeChar (hchars c List.mem_cons_self)).2.2.trans hhead
  · rw [List.map_map]
    exact List.map_congr_left fun c _ => toLower_toLower c

/-- A host and a port as they are written for the scheme. -/
inductive IsHostPort (scheme : String) (host : List Char) : Option Nat → Prop
  | file (hscheme : scheme = "file") (hhost : special host = .ok host)
      (hlocal : host ≠ "localhost".toList) : IsHostPort scheme host none
  | other {port : Option Nat} (hscheme : scheme ≠ "file") (hhost : hostFor scheme host = .ok host)
      (hport : ∀ n ∈ port, n ≤ greatestPort ∧ some n ≠ defaultPorts.lookup scheme) :
      IsHostPort scheme host port

theorem hostFor_spelled {given : List Char} (h : hostFor scheme given = .ok host) :
    IsSpelled host ∧ hostFor scheme host = .ok host := by
  rw [hostFor] at h ⊢
  split at h
  · rename_i hspecial
    obtain ⟨hspelled, -, hhost⟩ := special_spelled h
    rw [if_pos hspecial]
    exact ⟨hspelled, hhost⟩
  · rename_i hspecial
    rw [if_neg hspecial]
    exact plain_spelled h

theorem exists_of_bind_eq_ok {α β ε : Type} {x : Except ε α} {f : α → Except ε β} {b : β}
    (h : x.bind f = .ok b) : ∃ a, x = .ok a ∧ f a = .ok b := by
  cases x with
  | error e => exact nomatch h
  | ok a => exact ⟨a, rfl, h⟩

theorem of_ofAuthority (hscheme : scheme ≠ "file") (h : ofAuthority scheme cs = .ok (some origin)) :
    ∃ host n, (IsSpelled host ∧ host ≠ []) ∧ IsHostPort scheme host n ∧
      origin = written scheme host n := by
  obtain ⟨a, hclear, rfl⟩ := exists_of_ofAuthority h
  rw [ofAuthority_text _ hclear] at h
  obtain ⟨host, hhost, h⟩ := exists_of_bind_eq_ok h
  obtain ⟨n, hport, h⟩ := exists_of_bind_eq_ok h
  obtain ⟨hspelled, hhost'⟩ := hostFor_spelled hhost
  have hnil : host ≠ [] := by
    rintro rfl
    exact nomatch h
  rw [if_neg (by simpa using hnil)] at h
  refine ⟨host, n, ⟨hspelled, hnil⟩, .other hscheme hhost' ?_,
    (Option.some.inj (Except.ok.inj h)).symm⟩
  rintro m rfl
  cases hgiven : a.port with
  | none => exact nomatch (hgiven ▸ hport)
  | some digits =>
      rw [hgiven] at hport
      exact of_port hport

theorem of_ofFile (h : ofFile cs = .ok (some origin)) :
    ∃ host, (IsSpelled host ∧ host ≠ []) ∧ IsHostPort "file" host none ∧
      origin = written "file" host none := by
  match cs with
  | [] => exact nomatch h
  | [_] => exact nomatch h
  | a :: b :: rest =>
      simp only [ofFile] at h
      split at h
      · split at h
        · exact nomatch h
        · obtain ⟨host, hhost, h⟩ := exists_of_bind_eq_ok h
          obtain ⟨hspelled, hnil, hhost'⟩ := special_spelled hhost
          split at h
          · exact nomatch h
          · rename_i hlocal
            rw [not_or] at hlocal
            refine ⟨host, ⟨hspelled, hnil⟩, .file rfl hhost' hlocal.1, ?_⟩
            rw [← Option.some.inj (Except.ok.inj h), written]
            simp [behind]
      · exact nomatch h

theorem of_ofScheme (h : ofScheme scheme cs = .ok (some origin)) :
    ∃ host n, (IsSpelled host ∧ host ≠ []) ∧ IsHostPort scheme host n ∧
      origin = written scheme host n := by
  unfold ofScheme at h
  split at h
  · rename_i hscheme
    subst hscheme
    obtain ⟨host, hspelled, hparts, horigin⟩ := of_ofFile h
    exact ⟨host, none, hspelled, hparts, horigin⟩
  · rename_i hscheme
    split at h
    · exact of_ofAuthority hscheme h
    split at h
    · exact of_ofAuthority hscheme h
    · exact nomatch h

/-- A visible character that may stand between the slashes and the path. -/
def IsInner (c : Char) : Prop :=
  (0x20 < c.toNat ∧ c.toNat < 0x7F) ∧ c ≠ '@' ∧ ∀ isSpecial, endsAuthority isSpecial c = false

instance : DecidablePred IsInner := fun c => inferInstanceAs
  (Decidable ((0x20 < c.toNat ∧ c.toNat < 0x7F) ∧ c ≠ '@' ∧
    ∀ isSpecial, endsAuthority isSpecial c = false))

theorem isInner_of_ascii {c : Char} (hc : isHostChar c = true ∨ isHexDigit c = true) :
    IsInner c := by
  have hall : ∀ c : Char, c.toNat < 0x80 → isHostChar c = true ∨ isHexDigit c = true →
      IsInner c :=
    forall_ascii (by decide +kernel)
  have hascii : c.toNat < 0x80 := by
    rcases hc with hc | hc
    · simp only [isHostChar, Bool.and_eq_true, decide_eq_true_eq] at hc
      omega
    · exact ascii_of_isHexDigit hc
  exact hall c hascii hc

theorem isInner_of_isSpelled (h : IsSpelled host) : ∀ c ∈ host, IsInner c := by
  intro c hc
  cases h with
  | name hcs => exact isInner_of_ascii (.inl (hcs c hc))
  | number hcs =>
      rcases List.mem_append.mp hc with hc | hc
      · rcases List.mem_cons.mp hc with rfl | hc
        · decide
        rcases hcs c hc with hdigit | rfl
        · exact isInner_of_ascii (.inr hdigit)
        · decide
      · rw [List.mem_singleton.mp hc]
        decide

/-- The host and the port behind the slashes. -/
def place (host : List Char) (n : Option Nat) : Authority :=
  ⟨none, host, n.map (Nat.toDigits 10), []⟩

theorem text_place (host : List Char) (n : Option Nat) :
    (place host n).text = host ++ behind ':' (n.map (Nat.toDigits 10)) :=
  rfl

theorem isInner_of_mem_place {n : Option Nat} (h : IsSpelled host) :
    ∀ c ∈ (place host n).text, IsInner c := by
  intro c hc
  rw [text_place] at hc
  rcases List.mem_append.mp hc with hc | hc
  · exact isInner_of_isSpelled h c hc
  cases n with
  | none => exact nomatch hc
  | some n =>
      rcases List.mem_cons.mp hc with rfl | hc
      · decide
      · have hdigit := isDigit_iff.mp (isDigit_of_mem_toDigits hc)
        exact isInner_of_ascii (.inr (isHexDigit_iff.mpr (by omega)))

theorem isOpen_of_isSpelled (h : IsSpelled host) :
    (∀ front back, host = front ++ ':' :: back → IsOpen front) ∧ ¬ IsOpen host := by
  obtain ⟨hhides, hclosed⟩ := hidesColons_of_isSpelled h
  constructor
  · exact fun front back heq => isOpen_iff.mpr (hhides front back heq)
  · exact fun hopen => Bool.false_ne_true (hclosed.symm.trans (isOpen_iff.mp hopen))

theorem isClear_place {n : Option Nat} (h : IsSpelled host) (hne : host ≠ []) :
    (place host n).IsClear isSpecial := by
  obtain ⟨hcolons, hclosed⟩ := isOpen_of_isSpelled h
  have hinner := isInner_of_mem_place (n := n) h
  constructor
  · exact hne
  · exact fun c hc => (hinner c hc).2.2 isSpecial
  · exact fun c hc => nomatch hc
  · exact fun hmem => (hinner '@' hmem).2.1 rfl
  · exact hcolons
  · exact fun _ => hclosed

theorem isDrive_of_isSpelled (h : IsSpelled host) : isDrive host = false := by
  cases h with
  | name hcs =>
      match host, hcs with
      | [letter, sign], hcs =>
          have hsign : ∀ c, isHostChar c = true → (c == ':' || c == '|') = false := by
            intro c hc
            rw [Bool.or_eq_false_iff, beq_eq_false_iff_ne, beq_eq_false_iff_ne]
            constructor
            all_goals
              rintro rfl
              exact absurd hc (by decide)
          rw [isDrive, hsign sign (hcs sign (by simp)), Bool.and_false]
      | [], _ => rfl
      | [_], _ => rfl
      | _ :: _ :: _ :: _, _ => rfl
  | @number inner _ =>
      match inner with
      | [] => rfl
      | [_] => rfl
      | _ :: _ :: _ => rfl

theorem ofFile_place (h : IsSpelled host) (hne : host ≠ []) (hhost : special host = .ok host)
    (hlocal : host ≠ "localhost".toList) :
    ofFile ('/' :: '/' :: host) = .ok (some (written "file" host none)) := by
  have hname : host.takeWhile (!endsAuthority true ·) = host := by
    rw [List.takeWhile_eq_self_iff]
    intro c hc
    rw [(isInner_of_isSpelled h c hc).2.2 true]
    rfl
  have hempty : (host.isEmpty || isDrive host) = false := by
    simp [hne, isDrive_of_isSpelled h]
  have hdrive : ¬ (host = "localhost".toList ∨ isDrive [] = true) :=
    not_or.mpr ⟨hlocal, by decide⟩
  simp only [ofFile, hname, hempty, hhost, true_or, and_self, if_true, Bool.false_eq_true,
    if_false, List.drop_length, List.drop_nil, List.takeWhile_nil]
  refine (if_neg hdrive).trans ?_
  rw [written]
  simp [behind, pure, Except.pure]

theorem dropWhile_slashes (hcs : ∀ c ∈ cs, endsAuthority true c = false) :
    ('/' :: '/' :: cs).dropWhile (fun c => c == '/' || c == '\\') = cs := by
  have hend : ∀ c ∈ cs.head?, (c == '/' || c == '\\') = false := by
    intro c hc
    have hinner := hcs c (List.mem_of_head? hc)
    simp only [endsAuthority, Bool.or_eq_false_iff, Bool.true_and] at hinner
    rw [hinner.1.1.1, hinner.2]
    rfl
  have hslashes : ∀ c ∈ ['/', '/'], (c == '/' || c == '\\') = true := by simp
  exact (takeWhile_append hslashes hend).2

theorem givenPort_toDigits {default n : Option Nat}
    (h : ∀ m ∈ n, m ≤ greatestPort ∧ some m ≠ default) :
    givenPort default (n.map (Nat.toDigits 10)) = .ok n := by
  cases n with
  | none => rfl
  | some m => exact port_toDigits (h m rfl).1 (h m rfl).2

theorem ofScheme_place {n : Option Nat} (hspelled : IsSpelled host) (hne : host ≠ [])
    (h : IsHostPort scheme host n) :
    ofScheme scheme ('/' :: '/' :: (place host n).text) = .ok (some (written scheme host n)) := by
  cases h with
  | file hscheme hhost hlocal =>
      subst hscheme
      have htext : (place host none).text = host := List.append_nil host
      rw [htext]
      exact ofFile_place hspelled hne hhost hlocal
  | other hscheme hhost hport =>
      have hread : ofAuthority scheme (place host n).text = .ok (some (written scheme host n)) := by
        have hread := ofAuthority_text scheme (isClear_place (n := n) hspelled hne)
        simp only [place, List.append_nil, hhost, givenPort_toDigits hport, Except.bind] at hread
        rwa [if_neg (by simpa using hne)] at hread
      unfold ofScheme
      rw [if_neg hscheme]
      split
      · rw [dropWhile_slashes fun c hc => (isInner_of_mem_place hspelled c hc).2.2 true, hread]
      · exact hread

theorem toList_written (scheme : String) (host : List Char) (n : Option Nat) :
    (written scheme host n).toList =
      scheme.toList ++ ':' :: '/' :: '/' :: (place host n).text := by
  simp [written, text_place]

theorem dropEndWhile_eq_self {p : Char → Bool} (h : ∀ c ∈ cs, p c = false) :
    dropEndWhile p cs = cs := by
  induction cs with
  | nil => rfl
  | cons c cs ih =>
      obtain ⟨hc, hcs⟩ := List.forall_mem_cons.mp h
      rw [dropEndWhile, ih hcs]
      cases cs with
      | nil => simp [hc]
      | cons d cs => rfl

theorem toDigits_inj {m n : Nat} : Nat.toDigits 10 m = Nat.toDigits 10 n ↔ m = n := by
  constructor
  · intro h
    have hvalue : ∀ k, ofDigits 10 (Nat.toDigits 10 k) = k :=
      ofDigits_toDigits (by decide) (by decide)
    rw [← hvalue m, h, hvalue]
  · exact fun h => h ▸ rfl

theorem written_inj {scheme' : String} {host' : List Char} {n n' : Option Nat}
    (hscheme : IsScheme scheme.toList) (hscheme' : IsScheme scheme'.toList)
    (hhost : IsSpelled host ∧ host ≠ []) (hhost' : IsSpelled host' ∧ host' ≠ []) :
    written scheme host n = written scheme' host' n' ↔
      scheme = scheme' ∧ host = host' ∧ n = n' := by
  constructor
  · intro h
    have htext : scheme.toList ++ ':' :: '/' :: '/' :: (place host n).text =
        scheme'.toList ++ ':' :: '/' :: '/' :: (place host' n').text := by
      rw [← toList_written, ← toList_written, h]
    have hread : some (scheme, '/' :: '/' :: (place host n).text) =
        some (scheme', '/' :: '/' :: (place host' n').text) := by
      have hread := scheme?_append hscheme.chars hscheme.head ('/' :: '/' :: (place host n).text)
      rw [htext, scheme?_append hscheme'.chars hscheme'.head, hscheme.lower, hscheme'.lower,
        String.ofList_toList, String.ofList_toList] at hread
      exact hread.symm
    obtain ⟨rfl, hplace⟩ := Prod.mk.inj (Option.some.inj hread)
    have hplace : (place host n).text ++ [] = (place host' n').text ++ [] := by
      rw [(List.cons.inj (List.cons.inj hplace).2).2]
    have hclear : (place host n).IsClear true := isClear_place hhost.1 hhost.2
    have hclear' : (place host' n').IsClear true := isClear_place hhost'.1 hhost'.2
    have hsame := hclear.eq_of_append_eq hclear' hplace
    obtain ⟨-, rfl, hdigits, -⟩ := Authority.mk.inj hsame
    have hinj : Function.Injective (Nat.toDigits 10) := fun m n hmn => toDigits_inj.mp hmn
    exact ⟨rfl, rfl, Option.map_injective hinj hdigits⟩
  · rintro ⟨rfl, rfl, rfl⟩
    rfl

theorem significant_of_visible {address : String} (h : ∀ c ∈ address.toList, 0x20 < c.toNat) :
    significant address = address.toList := by
  have hvisible : ∀ c ∈ address.toList, decide (c ≤ ' ') = false := by
    intro c hc
    exact decide_eq_false fun hle => Nat.not_lt.mpr hle (h c hc)
  have hfront : address.toList.dropWhile (· ≤ ' ') = address.toList := by
    rw [List.dropWhile_eq_self_iff]
    intro hpos hle
    exact absurd hle (Bool.eq_false_iff.mp (hvisible _ (List.getElem_mem hpos)))
  have hback : dropEndWhile (· ≤ ' ') address.toList = address.toList :=
    dropEndWhile_eq_self hvisible
  have hinside : address.toList.filter (fun c => c != '\t' && c != '\n' && c != '\r') =
      address.toList := by
    rw [List.filter_eq_self]
    intro c hc
    have hsign : c ≠ '\t' ∧ c ≠ '\n' ∧ c ≠ '\r' := by
      refine ⟨?_, ?_, ?_⟩
      all_goals
        rintro rfl
        exact absurd (h _ hc) (by decide)
    simpa [and_assoc] using hsign
  rw [significant, hfront, hback, hinside]

theorem normalize_eq_ok_iff {address : String} : normalize address = .ok origin ↔
    ∃ scheme rest, scheme? (significant address) = some (scheme, rest) ∧
      ofScheme scheme rest = .ok (some origin) := by
  constructor
  · intro h
    rw [normalize] at h
    split at h
    · exact nomatch h
    · rename_i scheme rest hscheme
      split at h
      · exact nomatch h
      · exact nomatch h
      · rename_i hread
        obtain rfl := Except.ok.inj h
        exact ⟨scheme, rest, hscheme, hread⟩
  · rintro ⟨scheme, rest, hscheme, hread⟩
    rw [normalize, hscheme]
    simp only [hread]

theorem of_normalize {address : String} (h : normalize address = .ok origin) :
    ∃ scheme host n, IsScheme scheme.toList ∧ (IsSpelled host ∧ host ≠ []) ∧
      IsHostPort scheme host n ∧ origin = written scheme host n := by
  obtain ⟨scheme, rest, hscheme, hread⟩ := normalize_eq_ok_iff.mp h
  obtain ⟨s, -, hchars, hhead, rfl⟩ := of_scheme? hscheme
  obtain ⟨host, n, hspelled, hparts, horigin⟩ := of_ofScheme hread
  refine ⟨_, host, n, ?_, hspelled, hparts, horigin⟩
  rw [String.toList_ofList]
  exact isScheme_map_toLower hchars hhead

theorem normalize_written {n : Option Nat} (hscheme : IsScheme scheme.toList)
    (hspelled : IsSpelled host) (hne : host ≠ []) (h : IsHostPort scheme host n) :
    normalize (written scheme host n) = .ok (written scheme host n) := by
  have hvisible : ∀ c ∈ (written scheme host n).toList, 0x20 < c.toNat := by
    intro c hc
    rw [toList_written] at hc
    rcases List.mem_append.mp hc with hc | hc
    · exact (of_isSchemeChar (hscheme.chars c hc)).1.1
    · simp only [List.mem_cons] at hc
      rcases hc with rfl | rfl | rfl | hc
      · decide
      · decide
      · decide
      · exact (isInner_of_mem_place hspelled c hc).1.1
  refine normalize_eq_ok_iff.mpr ⟨scheme, _, ?_, ofScheme_place hspelled hne h⟩
  rw [significant_of_visible hvisible, toList_written,
    scheme?_append hscheme.chars hscheme.head, hscheme.lower, String.ofList_toList]

/-- A scheme and a place in visible signs of ASCII: no user, path, query or fragment. -/
def IsBare (origin : String) : Prop :=
  ∃ scheme place : List Char, origin.toList = scheme ++ "://".toList ++ place ∧
    (scheme ≠ [] ∧ ∀ c ∈ scheme, isSchemeChar c = true) ∧
    place ≠ [] ∧ ∀ c ∈ place, (0x20 < c.toNat ∧ c.toNat < 0x7F) ∧ c ∉ "/\\?#@".toList

theorem isBare_of_normalize {address : String} (h : normalize address = .ok origin) :
    IsBare origin := by
  obtain ⟨scheme, host, n, hscheme, ⟨hspelled, hne⟩, -, rfl⟩ := of_normalize h
  refine ⟨scheme.toList, (place host n).text, ?_, ⟨?_, hscheme.chars⟩, ?_, ?_⟩
  · rw [toList_written]
    simp
  · intro hnil
    have hhead := hscheme.head
    rw [hnil] at hhead
    exact nomatch hhead
  · rw [text_place]
    exact fun hnil => hne (List.append_eq_nil_iff.mp hnil).1
  · intro c hc
    obtain ⟨hvisible, hat, hends⟩ := isInner_of_mem_place hspelled c hc
    refine ⟨hvisible, fun hmem => ?_⟩
    simp at hmem
    rcases hmem with rfl | rfl | rfl | rfl | rfl
    · exact nomatch hends true
    · exact nomatch hends true
    · exact nomatch hends true
    · exact nomatch hends true
    · exact hat rfl

theorem normalize_normalize {address : String} (h : normalize address = .ok origin) :
    normalize origin = .ok origin := by
  obtain ⟨scheme, host, n, hscheme, ⟨hspelled, hne⟩, hparts, rfl⟩ := of_normalize h
  exact normalize_written hscheme hspelled hne hparts

end Weblog.Origin
