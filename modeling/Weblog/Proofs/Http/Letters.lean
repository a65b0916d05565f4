import Weblog.Proofs.Http.Host

namespace Weblog.Host

open Weblog.Text
open Weblog.Json (byte hexValue)
open Weblog.Utf8 (bytes lossyFrom)

variable {cs ds host host' : List Char} {c d : Char}

/-- The texts are the same up to the case of letters, each letter taken by itself. The two small
forms of sigma are two letters, as they are in names of domains. -/
def SameLetters (cs ds : List Char) : Prop :=
  cs.flatMap lowerChar = ds.flatMap lowerChar

/-- The text with its percent signs read. -/
def decoded (cs : List Char) : List Char :=
  (Utf8.decodeLossy (Percent.decode (Utf8.encode (String.ofList cs)))).toList

/-- The hosts are the same up to the case of letters, as they stand, or when percent signs are
read, as they are outside brackets. -/
def SameHost (cs ds : List Char) : Prop :=
  SameLetters cs ds ∨
    cs.head? ≠ some '[' ∧ ds.head? ≠ some '[' ∧ SameLetters (decoded cs) (decoded ds)

theorem decoded_eq (cs : List Char) :
    decoded cs = lossyFrom none [] (Percent.decode (bytes cs)) := by
  rw [decoded, Utf8.encode_ofList, Utf8.decodeLossy, String.toList_ofList]

theorem ascii_of_isHexDigit (hc : isHexDigit c = true) : c.toNat < 0x80 := by
  have := isHexDigit_iff.mp hc
  omega

theorem eq_of_mem_lowerChar (hd : d.toNat < 0x80) (halpha : d.isAlpha = false)
    (hmem : d ∈ lowerChar c) : c = d := by
  by_cases hc : c.toNat < 0x80
  · rw [lowerChar, if_pos hc, List.mem_singleton] at hmem
    rcases toLower_cases c with hsame | ⟨hleast, hmost, hlower⟩
    · rw [hmem, hsame]
    · have hletter : d.isLower = true := isLower_iff.mpr (by rw [hmem]; omega)
      exact absurd (isAlpha_iff.mpr (.inr hletter)) (Bool.eq_false_iff.mp halpha)
  rcases lowerChar_of_notAscii (Nat.le_of_not_lt hc) with rfl | hlower | ⟨run, hrun, hholds, hlower⟩
  · rw [lowerChar_dottedI, List.mem_cons, List.mem_singleton] at hmem
    rcases hmem with rfl | rfl
    · exact absurd halpha (by decide)
    · exact absurd hd (by decide)
  · rw [hlower, List.mem_singleton] at hmem
    exact hmem.symm
  · have hall : ∀ e ∈ lowerChar c, e.toNat < 0x80 := by
      rw [hlower, List.mem_singleton] at hmem
      rw [hlower, ← hmem]
      simpa using hd
    obtain rfl := eq_kelvinSign_of_lowerChar (Nat.le_of_not_lt hc) hall
    rw [lowerChar_kelvinSign, List.mem_singleton] at hmem
    exact absurd halpha (by rw [hmem]; decide)

theorem lowerChar_of_isHexDigit (hc : isHexDigit c = true) : lowerChar c = [c.toLower] := by
  rw [lowerChar, if_pos (ascii_of_isHexDigit hc)]

theorem exists_lowerChar_eq_cons (c : Char) :
    ∃ d ds, lowerChar c = d :: ds ∧ isHexDigit d = isHexDigit c := by
  by_cases hc : c.toNat < 0x80
  · exact ⟨c.toLower, [], if_pos hc, isHexDigit_toLower c⟩
  have hnot : isHexDigit c = false := by
    rw [Bool.eq_false_iff, ne_eq, isHexDigit_iff]
    omega
  rw [hnot]
  rcases lowerChar_of_notAscii (Nat.le_of_not_lt hc) with rfl | hlower | ⟨run, hrun, hholds, hlower⟩
  · exact ⟨_, _, lowerChar_dottedI, by decide⟩
  · exact ⟨c, [], hlower, hnot⟩
  · refine ⟨_, [], hlower, ?_⟩
    rw [Bool.eq_false_iff]
    intro hdigit
    have hall : ∀ e ∈ lowerChar c, e.toNat < 0x80 := by
      rw [hlower]
      simpa using ascii_of_isHexDigit hdigit
    obtain rfl := eq_kelvinSign_of_lowerChar (Nat.le_of_not_lt hc) hall
    rw [lowerChar_kelvinSign] at hlower
    rw [← (List.cons.inj hlower).1] at hdigit
    exact absurd hdigit (by decide)

/-- The byte that two digits write, and what follows them. -/
def hexPair? : List Char → Option (UInt8 × List Char)
  | high :: low :: rest =>
    if isHexDigit high && isHexDigit low then
      some ((16 * hexDigitValue high + hexDigitValue low).toUInt8, rest)
    else none
  | _ => none

theorem hexPair?_cases (cs : List Char) :
    (cs.head?.any isHexDigit = false ∧ hexPair? cs = none) ∨
    (∃ high rest, cs = high :: rest ∧ isHexDigit high = true ∧
      rest.head?.any isHexDigit = false ∧ hexPair? cs = none) ∨
    ∃ high low rest, cs = high :: low :: rest ∧ isHexDigit high = true ∧ isHexDigit low = true ∧
      hexPair? cs = some ((16 * hexDigitValue high + hexDigitValue low).toUInt8, rest) := by
  match cs with
  | [] => exact .inl ⟨rfl, rfl⟩
  | [high] =>
      cases hhigh : isHexDigit high with
      | false => exact .inl ⟨hhigh, rfl⟩
      | true => exact .inr (.inl ⟨high, [], rfl, hhigh, rfl, rfl⟩)
  | high :: low :: rest =>
      cases hhigh : isHexDigit high with
      | false => exact .inl ⟨hhigh, by simp [hexPair?, hhigh]⟩
      | true =>
          cases hlow : isHexDigit low with
          | false => exact .inr (.inl ⟨high, _, rfl, hhigh, hlow, by simp [hexPair?, hlow]⟩)
          | true =>
              refine .inr (.inr ⟨high, low, rest, rfl, hhigh, hlow, ?_⟩)
              simp [hexPair?, hhigh, hlow]

theorem length_lt_of_hexPair? {pair : UInt8 × List Char} (h : hexPair? cs = some pair) :
    pair.2.length < cs.length := by
  rcases hexPair?_cases cs with ⟨-, hpair⟩ | ⟨_, _, -, -, -, hpair⟩ | ⟨_, _, _, rfl, -, -, hpair⟩
  · exact nomatch h.symm.trans hpair
  · exact nomatch h.symm.trans hpair
  · obtain rfl := Option.some.inj (hpair.symm.trans h)
    exact Nat.lt_succ_of_lt (Nat.lt_succ_self _)

theorem head?_flatMap_lowerChar (cs : List Char) :
    (cs.flatMap lowerChar).head?.any isHexDigit = cs.head?.any isHexDigit := by
  cases cs with
  | nil => rfl
  | cons c cs =>
      obtain ⟨d, ds, hlower, hd⟩ := exists_lowerChar_eq_cons c
      rw [List.flatMap_cons, hlower]
      exact hd

theorem hexPair?_flatMap_lowerChar (cs : List Char) : hexPair? (cs.flatMap lowerChar) =
    (hexPair? cs).map fun (b, rest) => (b, rest.flatMap lowerChar) := by
  have hnone : ∀ ds : List Char, ds.head?.any isHexDigit = false → hexPair? ds = none := by
    intro ds hds
    rcases hexPair?_cases ds with ⟨-, hpair⟩ | ⟨_, _, rfl, -, -, hpair⟩ | ⟨_, _, _, rfl, hhigh, -⟩
    · exact hpair
    · exact hpair
    · exact absurd hhigh (by simpa using hds)
  rcases hexPair?_cases cs with ⟨hhead, hpair⟩ | ⟨high, rest, rfl, hhigh, hrest, hpair⟩ |
    ⟨high, low, rest, rfl, hhigh, hlow, hpair⟩
  · rw [hpair, hnone _ ((head?_flatMap_lowerChar cs).trans hhead)]
    rfl
  · rw [hpair, List.flatMap_cons, lowerChar_of_isHexDigit hhigh]
    rcases hexPair?_cases ([high.toLower] ++ rest.flatMap lowerChar) with
      ⟨-, hpair'⟩ | ⟨_, _, -, -, -, hpair'⟩ | ⟨_, low, rest', heq, -, hlow, -⟩
    · exact hpair'
    · exact hpair'
    · have hlower : rest.flatMap lowerChar = low :: rest' := (List.cons.inj heq).2
      have hhead := head?_flatMap_lowerChar rest
      rw [hlower, hrest] at hhead
      exact absurd hlow (by simpa using hhead)
  · rw [hpair, List.flatMap_cons, List.flatMap_cons, lowerChar_of_isHexDigit hhigh,
      lowerChar_of_isHexDigit hlow]
    simp [hexPair?, isHexDigit_toLower, hhigh, hlow, hexDigitValue_toLower]

theorem hexValue_byte (hc : c.toNat < 0x80) :
    hexValue (byte c) = if isHexDigit c then some (hexDigitValue c) else none := by
  have hall : ∀ c : Char, c.toNat < 0x80 →
      hexValue (byte c) = if isHexDigit c then some (hexDigitValue c) else none :=
    forall_ascii (by decide)
  exact hall c hc

theorem hexValue_byte_of_isHexDigit (hc : isHexDigit c = true) :
    hexValue (byte c) = some (hexDigitValue c) := by
  rw [hexValue_byte (ascii_of_isHexDigit hc), if_pos hc]

theorem hexValue_of_mem_encodeChar (hc : isHexDigit c = false) {b : UInt8}
    (hb : b ∈ String.utf8EncodeChar c) : hexValue b = none := by
  by_cases hascii : c.toNat < 0x80
  · rw [Utf8.encodeChar_ascii hascii, List.mem_singleton] at hb
    rw [hb, hexValue_byte hascii, hc]
    rfl
  · have hbeyond := Utf8.le_of_mem_encodeChar (Nat.le_of_not_lt hascii) hb
    simp only [hexValue]
    rw [if_neg (by omega), if_neg (by omega), if_neg (by omega)]

theorem hexValue_of_bytes_eq {b : UInt8} {bs : Bytes} (hcs : cs.head?.any isHexDigit = false)
    (hbytes : bytes cs = b :: bs) : hexValue b = none := by
  cases cs with
  | nil => exact nomatch hbytes
  | cons c cs =>
      obtain ⟨d, ds, hd, -⟩ := Utf8.exists_encodeChar_eq_cons c
      rw [Utf8.bytes_cons, hd] at hbytes
      obtain ⟨rfl, -⟩ := List.cons.inj hbytes
      exact hexValue_of_mem_encodeChar hcs (hd ▸ List.mem_cons_self)

theorem decode_percent_bytes (cs : List Char) : Percent.decode (byte '%' :: bytes cs) =
    match hexPair? cs with
    | some (b, rest) => b :: Percent.decode (bytes rest)
    | none => byte '%' :: Percent.decode (bytes cs) := by
  rcases hexPair?_cases cs with ⟨hhead, hpair⟩ | ⟨high, rest, rfl, hhigh, hrest, hpair⟩ |
    ⟨high, low, rest, rfl, hhigh, hlow, hpair⟩
  · rw [hpair]
    exact Percent.decode_percent_of_none fun b _ _ hbytes =>
      .inl (hexValue_of_bytes_eq hhead hbytes)
  · rw [hpair, Utf8.bytes_cons_ascii (ascii_of_isHexDigit hhigh)]
    apply Percent.decode_percent_of_none
    intro b b' bs hbytes
    exact .inr (hexValue_of_bytes_eq hrest (List.cons.inj hbytes).2)
  · rw [hpair, Utf8.bytes_cons_ascii (ascii_of_isHexDigit hhigh),
      Utf8.bytes_cons_ascii (ascii_of_isHexDigit hlow),
      Percent.decode_percent (hexValue_byte_of_isHexDigit hhigh)
        (hexValue_byte_of_isHexDigit hlow)]

theorem decode_bytes_append (hcs : '%' ∉ cs) (ds : List Char) :
    Percent.decode (bytes (cs ++ ds)) = bytes cs ++ Percent.decode (bytes ds) := by
  rw [Utf8.bytes_append, Percent.decode_append (Percent.notMem_bytes hcs)]

theorem flatMap_lowerChar_lossyFrom (cs : List Char) (p : Option Utf8.Partial)
    (hp : ∀ q ∈ p, q.IsInner) :
    (lossyFrom p [] (Percent.decode (bytes (cs.flatMap lowerChar)))).flatMap lowerChar =
      (lossyFrom p [] (Percent.decode (bytes cs))).flatMap lowerChar := by
  -- by length, as two digits go with the percent sign before them
  induction hn : cs.length using Nat.strongRecOn generalizing cs p with
  | ind n ih =>
      subst hn
      match cs with
      | [] => rfl
      | c :: cs =>
          have hrest := ih cs.length (Nat.lt_succ_self _) cs none (fun q hq => nomatch hq) rfl
          by_cases hc : c = '%'
          · subst hc
            have hlower : ('%' :: cs).flatMap lowerChar = '%' :: cs.flatMap lowerChar := rfl
            have hpercent : ∀ bs, byte '%' :: bs = String.utf8EncodeChar '%' ++ bs := fun _ => rfl
            rw [hlower, Utf8.bytes_cons_ascii (by decide), Utf8.bytes_cons_ascii (by decide),
              decode_percent_bytes, decode_percent_bytes, hexPair?_flatMap_lowerChar]
            cases hpair : hexPair? cs with
            | none =>
                simp only [Option.map_none]
                rw [hpercent, hpercent, Utf8.lossyFrom_encodeChar_after hp,
                  Utf8.lossyFrom_encodeChar_after hp]
                simp only [List.flatMap_append, List.flatMap_cons, hrest]
            | some pair =>
                have hshort := Nat.lt_succ_of_lt (length_lt_of_hexPair? hpair)
                simp only [Option.map_some]
                rw [Utf8.lossyFrom_cons, Utf8.lossyFrom_cons, List.flatMap_append,
                  List.flatMap_append, ih _ hshort pair.2 _ (Utf8.isInner_afterByte _ _ hp) rfl]
          · have hlower : '%' ∉ lowerChar c := fun hmem =>
              hc (eq_of_mem_lowerChar (by decide) (by decide) hmem)
            have hsingle : '%' ∉ [c] := by simpa using Ne.symm hc
            obtain ⟨d, ds, hcons, -⟩ := exists_lowerChar_eq_cons c
            have hne : lowerChar c ≠ [] := by simp [hcons]
            rw [List.flatMap_cons, ← List.singleton_append, decode_bytes_append hlower,
              decode_bytes_append hsingle, Utf8.lossyFrom_bytes_after hp hne,
              Utf8.lossyFrom_bytes_after hp (List.cons_ne_nil _ _)]
            simp only [List.flatMap_append, flatMap_lowerChar_lowerChar, hrest,
              List.flatMap_singleton]

theorem SameLetters.decoded (h : SameLetters cs ds) : SameLetters (decoded cs) (decoded ds) := by
  have hlower : ∀ cs, (Host.decoded (cs.flatMap lowerChar)).flatMap lowerChar =
      (Host.decoded cs).flatMap lowerChar := by
    intro cs
    rw [decoded_eq, decoded_eq]
    exact flatMap_lowerChar_lossyFrom cs none fun q hq => nomatch hq
  rw [SameLetters, ← hlower cs, h, hlower]

theorem head?_of_sameLetters (h : SameLetters cs ds) (hcs : cs.head? = some '[') :
    ds.head? = some '[' := by
  obtain ⟨rest, rfl⟩ := List.head?_eq_some_iff.mp hcs
  cases ds with
  | nil => exact nomatch h
  | cons d ds =>
      obtain ⟨e, es, hlower, -⟩ := exists_lowerChar_eq_cons d
      have hlow : lowerChar '[' = ['['] := rfl
      rw [SameLetters, List.flatMap_cons, List.flatMap_cons, hlower, hlow] at h
      have hmem : '[' ∈ lowerChar d := by
        rw [hlower, (List.cons.inj h).1]
        exact List.mem_cons_self
      rw [eq_of_mem_lowerChar (by decide) (by decide) hmem]
      rfl

theorem SameLetters.symm (h : SameLetters cs ds) : SameLetters ds cs :=
  Eq.symm h

theorem exists_of_bracketed (hhead : cs.head? = some '[') (h : bracketed cs = .ok host) :
    ∃ inner pieces, cs = '[' :: inner ++ [']'] ∧ ipv6? inner = some pieces ∧
      host = '[' :: ipv6Text pieces ++ [']'] := by
  obtain ⟨inner, pieces, hlast, rfl, hpieces, hhost⟩ := of_bracketed h
  refine ⟨_, pieces, ?_, hpieces, hhost⟩
  obtain ⟨rest, rfl⟩ := List.head?_eq_some_iff.mp hhead
  obtain ⟨front, hfront⟩ := List.getLast?_eq_some_iff.mp hlast
  cases front with
  | nil => exact absurd (List.cons.inj hfront).1 (by decide)
  | cons c front =>
      obtain ⟨-, rfl⟩ := List.cons.inj hfront
      simp

theorem flatMap_lowerChar_ascii (hcs : ∀ c ∈ cs, c.toNat < 0x80) :
    cs.flatMap lowerChar = cs.map Char.toLower := by
  rw [List.map_eq_flatMap]
  exact List.flatMap_congr fun c hc => if_pos (hcs c hc)

theorem bracketed_congr (hcs : bracketed cs = .ok host) (hds : bracketed ds = .ok host')
    (hhead : cs.head? = some '[') (h : SameLetters cs ds) : host = host' := by
  obtain ⟨i, pieces, rfl, hi, rfl⟩ := exists_of_bracketed hhead hcs
  obtain ⟨j, pieces', rfl, hj, rfl⟩ := exists_of_bracketed (head?_of_sameLetters h hhead) hds
  have hascii : ∀ {cs : List Char} {pieces : List Nat}, ipv6? cs = some pieces →
      ∀ c ∈ cs, c.toNat < 0x80 := by
    intro cs pieces hpieces c hc
    rcases (of_ipv6? hpieces).2 c hc with hdigit | rfl | rfl
    · exact ascii_of_isHexDigit hdigit
    · decide
    · decide
  have hinner : i.map Char.toLower = j.map Char.toLower := by
    rw [SameLetters, List.flatMap_append, List.flatMap_append, List.flatMap_cons,
      List.flatMap_cons] at h
    rw [← flatMap_lowerChar_ascii (hascii hi), ← flatMap_lowerChar_ascii (hascii hj)]
    exact List.append_cancel_left (List.append_cancel_right h)
  have hpieces : some pieces = some pieces' := by
    rw [← hi, ← hj, ← ipv6?_map_toLower i, hinner, ipv6?_map_toLower]
  rw [Option.some.inj hpieces]

theorem special_eq_of_decoded (hcs : cs.head? ≠ some '[') (hds : ds.head? ≠ some '[')
    (h : SameLetters (Host.decoded cs) (Host.decoded ds)) : special cs = special ds := by
  rw [special, special, if_neg hcs, if_neg hds, Domain.toAscii?_congr h]

/-- Hosts that are the same up to the case of letters are one host. -/
theorem special_congr (hcs : special cs = .ok host) (hds : special ds = .ok host')
    (h : SameHost cs ds) : host = host' := by
  rcases h with h | ⟨hhead, hhead', h⟩
  · by_cases hhead : cs.head? = some '['
    · rw [special, if_pos hhead] at hcs
      rw [special, if_pos (head?_of_sameLetters h hhead)] at hds
      exact bracketed_congr hcs hds hhead h
    · have hhead' := fun hhead' => hhead (head?_of_sameLetters h.symm hhead')
      rw [special_eq_of_decoded hhead hhead' h.decoded, hds] at hcs
      exact (Except.ok.inj hcs).symm
  · rw [special_eq_of_decoded hhead hhead' h, hds] at hcs
    exact (Except.ok.inj hcs).symm

end Weblog.Host
