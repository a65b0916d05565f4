import Mathlib.Logic.ExistsUnique
import Weblog.Proofs.Http.Letters
import Weblog.Proofs.Http.Origin
import Weblog.Service.Application

namespace Weblog.Origin

open Weblog.Text
open Weblog.Host

variable {address address' origin origin' : String}

/-- The parts of an address of the web. -/
structure WebAddress where
  scheme : List Char
  slashes : List Char
  place : Authority

/-- One of the two schemes of the web, in letters of either case. -/
def IsWebScheme (scheme : List Char) : Prop :=
  scheme.map Char.toLower = "http".toList ∨ scheme.map Char.toLower = "https".toList

namespace WebAddress

variable {a b : WebAddress}

def text (a : WebAddress) : List Char :=
  a.scheme ++ ':' :: (a.slashes ++ (a.place.text ++ a.place.tail))

/-- The scheme in small letters. -/
def schemeName (a : WebAddress) : String :=
  String.ofList (a.scheme.map Char.toLower)

/-- The port that goes without saying. -/
def usualPort (a : WebAddress) : Nat :=
  if a.schemeName = "https" then 443 else 80

/-- The port at which the host is asked. -/
def port (a : WebAddress) : Nat :=
  effectivePort a.usualPort a.place.port

/-- The parts can be told from each other. -/
structure IsClear (a : WebAddress) : Prop where
  scheme : IsWebScheme a.scheme
  slashes : ∀ c ∈ a.slashes, (c == '/' || c == '\\') = true
  place : a.place.IsClear true

/-- The address is written with these parts. -/
def Spells (a : WebAddress) (address : String) : Prop :=
  a.IsClear ∧ significant address = a.text

end WebAddress

theorem isScheme_of_isWebScheme {scheme : List Char} (h : IsWebScheme scheme) :
    (∀ c ∈ scheme, isSchemeChar c = true) ∧ scheme.head?.any Char.isAlpha = true := by
  have hletter : ∀ c ∈ scheme, c.isAlpha = true := by
    intro c hc
    have hmem : c.toLower ∈ "https".toList := by
      have hmem := List.mem_map_of_mem (f := Char.toLower) hc
      rcases h with h | h
      · rw [h] at hmem
        simp at hmem ⊢
        tauto
      · rwa [h] at hmem
    have hlower : c.toLower.isLower = true := by
      simp at hmem
      rcases hmem with h | h | h | h
      all_goals
        rw [h]
        decide
    have hbounds := isLower_iff.mp hlower
    rw [isAlpha_iff, isUpper_iff, isLower_iff]
    rcases toLower_cases c with hsame | ⟨hleast, hmost, -⟩
    · rw [hsame] at hbounds
      exact .inr hbounds
    · exact .inl ⟨hleast, hmost⟩
  constructor
  · intro c hc
    rw [isSchemeChar, Char.isAlphanum, hletter c hc]
    rfl
  · cases scheme with
    | nil => rcases h with h | h <;> exact absurd h (by decide)
    | cons c scheme => exact hletter c List.mem_cons_self

theorem lookup_of_isWebScheme {scheme : List Char} (h : IsWebScheme scheme) :
    String.ofList (scheme.map Char.toLower) ≠ "file" ∧
      defaultPorts.lookup (String.ofList (scheme.map Char.toLower)) =
        some (if String.ofList (scheme.map Char.toLower) = "https" then 443 else 80) := by
  rcases h with h | h
  all_goals
    rw [h, String.ofList_toList]
    decide

namespace WebAddress

variable {a b : WebAddress}

theorem IsClear.scheme_text (h : a.IsClear) :
    scheme? a.text = some (a.schemeName, a.slashes ++ (a.place.text ++ a.place.tail)) ∧
      a.text.takeWhile isSchemeChar = a.scheme := by
  obtain ⟨hchars, hhead⟩ := isScheme_of_isWebScheme h.scheme
  have hend : ∀ c ∈ (':' :: (a.slashes ++ (a.place.text ++ a.place.tail))).head?,
      isSchemeChar c = false := by
    simp [show isSchemeChar ':' = false by decide]
  exact ⟨scheme?_append hchars hhead _, (takeWhile_append hchars hend).1⟩

theorem IsClear.slashes_text (h : a.IsClear) :
    (a.slashes ++ (a.place.text ++ a.place.tail)).takeWhile (fun c => c == '/' || c == '\\') =
        a.slashes ∧
      (a.slashes ++ (a.place.text ++ a.place.tail)).dropWhile (fun c => c == '/' || c == '\\') =
        a.place.text ++ a.place.tail := by
  apply takeWhile_append h.slashes
  intro c hc
  have hmem : c ∈ a.place.text := by
    have hne : a.place.text ≠ [] := by simp [Authority.text, h.place.host]
    rw [List.head?_append_of_ne_nil _ hne] at hc
    exact List.mem_of_head? hc
  have hinner := h.place.text c hmem
  simp only [endsAuthority, Bool.or_eq_false_iff, Bool.true_and] at hinner
  rw [hinner.1.1.1, hinner.2]
  rfl

theorem IsClear.eq_of_text_eq (ha : a.IsClear) (hb : b.IsClear) (h : a.text = b.text) : a = b := by
  have hscheme : a.scheme = b.scheme := by rw [← ha.scheme_text.2, h, hb.scheme_text.2]
  have hrest : a.slashes ++ (a.place.text ++ a.place.tail) =
      b.slashes ++ (b.place.text ++ b.place.tail) := by
    rw [text, text, hscheme] at h
    exact (List.cons.inj (List.append_cancel_left h)).2
  have hslashes : a.slashes = b.slashes := by
    rw [← ha.slashes_text.1, hrest, hb.slashes_text.1]
  have hplace : a.place = b.place := by
    rw [hslashes] at hrest
    exact ha.place.eq_of_append_eq hb.place (List.append_cancel_left hrest)
  cases a
  cases b
  simp only at hscheme hslashes hplace
  rw [hscheme, hslashes, hplace]

/-- The port that the origin says: one that does not go without saying. -/
def saidPort (a : WebAddress) : Option Nat :=
  if a.port = a.usualPort then none else some a.port

theorem saidPort_inj (h : a.schemeName = b.schemeName) :
    a.saidPort = b.saidPort ↔ a.port = b.port := by
  have husual : a.usualPort = b.usualPort := by rw [usualPort, usualPort, h]
  rw [saidPort, saidPort, husual]
  constructor
  · intro hsaid
    by_cases ha : a.port = b.usualPort
    · rw [if_pos ha] at hsaid
      by_cases hb : b.port = b.usualPort
      · rw [ha, hb]
      · rw [if_neg hb] at hsaid
        exact nomatch hsaid
    · rw [if_neg ha] at hsaid
      by_cases hb : b.port = b.usualPort
      · rw [if_pos hb] at hsaid
        exact nomatch hsaid
      · rw [if_neg hb] at hsaid
        exact Option.some.inj hsaid
  · intro hport
    rw [hport]

theorem IsClear.isScheme (h : a.IsClear) : IsScheme a.schemeName.toList := by
  obtain ⟨hchars, hhead⟩ := isScheme_of_isWebScheme h.scheme
  rw [schemeName, String.toList_ofList]
  exact isScheme_map_toLower hchars hhead

theorem lookup_schemeName (h : a.IsClear) :
    a.schemeName ≠ "file" ∧ defaultPorts.lookup a.schemeName = some a.usualPort :=
  lookup_of_isWebScheme h.scheme

theorem IsClear.givenPort_eq (h : a.IsClear) {n : Option Nat}
    (hport : givenPort (some a.usualPort) a.place.port = .ok n) : n = a.saidPort := by
  rw [saidPort, port]
  cases hgiven : a.place.port with
  | none =>
      rw [hgiven] at hport
      rw [← Except.ok.inj hport]
      exact (if_pos rfl).symm
  | some digits =>
      rw [hgiven] at hport
      apply of_port_some _ hport
      intro hmem
      have hslash : '\\' ∈ a.place.text := by simp [Authority.text, behind, hgiven, hmem]
      exact absurd (h.place.text _ hslash) (by decide)

theorem IsClear.ofScheme_eq (h : a.IsClear) :
    ofScheme a.schemeName (a.slashes ++ (a.place.text ++ a.place.tail)) =
      (special a.place.host).bind fun host =>
        (givenPort (some a.usualPort) a.place.port).bind fun n =>
          .ok (if host.isEmpty then none else some (written a.schemeName host n)) := by
  obtain ⟨hfile, hlookup⟩ := lookup_schemeName h
  have hsome : (defaultPorts.lookup a.schemeName).isSome = true := by
    rw [hlookup, Option.isSome_some]
  have hplace : a.place.IsClear (defaultPorts.lookup a.schemeName).isSome := by
    rw [hsome]
    exact h.place
  unfold ofScheme
  rw [if_neg hfile, if_pos hsome, h.slashes_text.2, ofAuthority_text _ hplace, hlookup, hostFor,
    if_pos hsome]

theorem Spells.origin_eq (h : a.Spells address) (horigin : normalize address = .ok origin) :
    ∃ host, special a.place.host = .ok host ∧ origin = written a.schemeName host a.saidPort := by
  obtain ⟨hclear, htext⟩ := h
  obtain ⟨scheme, rest, hscheme, hread⟩ := normalize_eq_ok_iff.mp horigin
  rw [htext, hclear.scheme_text.1] at hscheme
  obtain ⟨rfl, rfl⟩ := Prod.mk.inj (Option.some.inj hscheme)
  rw [hclear.ofScheme_eq] at hread
  obtain ⟨host, hhost, hread⟩ := exists_of_bind_eq_ok hread
  obtain ⟨n, hport, hread⟩ := exists_of_bind_eq_ok hread
  have hne : ¬ host.isEmpty = true := by simpa using (special_spelled hhost).2.1
  rw [if_neg hne, hclear.givenPort_eq hport] at hread
  exact ⟨host, hhost, (Option.some.inj (Except.ok.inj hread)).symm⟩

end WebAddress

/-- An address that begins with a scheme of the web and a colon. -/
def IsOfWeb (address : String) : Prop :=
  ∃ scheme rest, significant address = scheme ++ ':' :: rest ∧ IsWebScheme scheme

theorem existsUnique_spells (h : normalize address = .ok origin) (hweb : IsOfWeb address) :
    ∃! a : WebAddress, a.Spells address := by
  obtain ⟨scheme, rest, htext, hscheme⟩ := hweb
  obtain ⟨hchars, hhead⟩ := isScheme_of_isWebScheme hscheme
  obtain ⟨hfile, hlookup⟩ := lookup_of_isWebScheme hscheme
  obtain ⟨_, _, hread, horigin⟩ := normalize_eq_ok_iff.mp h
  rw [htext, scheme?_append hchars hhead] at hread
  obtain ⟨rfl, rfl⟩ := Prod.mk.inj (Option.some.inj hread)
  unfold ofScheme at horigin
  rw [if_neg hfile, hlookup, if_pos Option.isSome_some] at horigin
  obtain ⟨place, hplace, hrest⟩ := exists_of_ofAuthority horigin
  rw [hlookup, Option.isSome_some] at hplace
  have hslashes : ∀ c ∈ rest.takeWhile (fun c => c == '/' || c == '\\'),
      (c == '/' || c == '\\') = true := by
    intro c hc
    exact List.all_eq_true.mp List.all_takeWhile c hc
  have hspells : WebAddress.Spells
      ⟨scheme, rest.takeWhile (fun c => c == '/' || c == '\\'), place⟩ address := by
    refine ⟨⟨hscheme, hslashes, hplace⟩, ?_⟩
    rw [htext, WebAddress.text, ← hrest, List.takeWhile_append_dropWhile]
  refine ⟨_, hspells, ?_⟩
  intro b hb
  exact hb.1.eq_of_text_eq hspells.1 (hb.2.symm.trans hspells.2)

theorem origin_eq_iff {a b : WebAddress} (ha : a.Spells address) (hb : b.Spells address')
    (h : normalize address = .ok origin) (h' : normalize address' = .ok origin') :
    origin = origin' ↔ a.schemeName = b.schemeName ∧
      special a.place.host = special b.place.host ∧ a.port = b.port := by
  obtain ⟨host, hhost, rfl⟩ := ha.origin_eq h
  obtain ⟨host', hhost', rfl⟩ := hb.origin_eq h'
  obtain ⟨hspelled, hne, -⟩ := special_spelled hhost
  obtain ⟨hspelled', hne', -⟩ := special_spelled hhost'
  rw [written_inj ha.1.isScheme hb.1.isScheme ⟨hspelled, hne⟩ ⟨hspelled', hne'⟩, hhost, hhost',
    Except.ok.injEq]
  exact and_congr_right fun hscheme => and_congr_right fun _ =>
    WebAddress.saidPort_inj hscheme

theorem origin_congr {a b : WebAddress} (ha : a.Spells address) (hb : b.Spells address')
    (h : normalize address = .ok origin) (h' : normalize address' = .ok origin')
    (hscheme : a.schemeName = b.schemeName) (hhost : SameHost a.place.host b.place.host)
    (hport : a.port = b.port) : origin = origin' := by
  obtain ⟨host, hread, -⟩ := ha.origin_eq h
  obtain ⟨host', hread', -⟩ := hb.origin_eq h'
  refine (origin_eq_iff ha hb h h').mpr ⟨hscheme, ?_, hport⟩
  rw [hread, hread', special_congr hread hread' hhost]

theorem exists_mapM_eq_ok {α β ε : Type} {f : α → Except ε β} {l : List α} :
    (∃ l', l.mapM f = .ok l') ↔ ∀ a ∈ l, ∃ b, f a = .ok b := by
  induction l with
  | nil => simpa using ⟨[], rfl⟩
  | cons a l ih =>
      rw [List.forall_mem_cons, ← ih]
      constructor
      · rintro ⟨l', h⟩
        rw [List.mapM_cons] at h
        obtain ⟨b, hb, h⟩ := exists_of_bind_eq_ok h
        obtain ⟨bs, hbs, -⟩ := exists_of_bind_eq_ok h
        exact ⟨⟨b, hb⟩, ⟨bs, hbs⟩⟩
      · rintro ⟨⟨b, hb⟩, ⟨bs, hbs⟩⟩
        refine ⟨b :: bs, ?_⟩
        rw [List.mapM_cons, hb, hbs]
        rfl

theorem exists_ofNames_eq_ok {names : List String} :
    (∃ audience, Audience.ofNames names = .ok audience) ↔
      "*" ∈ names ∨ ∀ name ∈ names, ∃ origin, normalize name = .ok origin := by
  rw [Audience.ofNames, ← exists_mapM_eq_ok]
  by_cases hall : "*" ∈ names
  · rw [if_pos (by simpa using hall)]
    exact ⟨fun _ => .inl hall, fun _ => ⟨_, rfl⟩⟩
  · rw [if_neg (by simpa using hall)]
    constructor
    · rintro ⟨audience, h⟩
      cases horigins : names.mapM normalize with
      | error e =>
          rw [horigins] at h
          exact nomatch h
      | ok origins => exact .inr ⟨origins, rfl⟩
    · rintro (hmem | ⟨origins, horigins⟩)
      · exact absurd hmem hall
      · exact ⟨.origins origins, by rw [horigins]; rfl⟩

end Weblog.Origin
