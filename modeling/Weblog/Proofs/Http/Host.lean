import Weblog.Proofs.Domain.Name
import Weblog.Proofs.Http.Pieces

namespace Weblog.Host

open Weblog.Text
open Weblog.Domain (toAscii? isForbidden nameOf AreParts)

variable {cs ds host : List Char} {c : Char} {n : Nat}

/-- A visible character of ASCII that may stand in a host of any kind. -/
def isHostChar (c : Char) : Bool :=
  0x20 < c.toNat && c.toNat < 0x7F && !isSeparator c

/-- How a host is spelled: in characters that separate nothing, or as a number in brackets. -/
inductive IsSpelled : List Char → Prop
  | name {cs : List Char} (hcs : ∀ c ∈ cs, isHostChar c = true) : IsSpelled cs
  | number {cs : List Char} (hcs : ∀ c ∈ cs, isHexDigit c = true ∨ c = ':') :
      IsSpelled ('[' :: cs ++ [']'])

theorem head?_ne_of_isHostChar (hcs : ∀ c ∈ cs, isHostChar c = true) : cs.head? ≠ some '[' := by
  intro hhead
  exact absurd (hcs '[' (List.mem_of_head? hhead)) (by decide)

theorem of_bracketed (h : bracketed cs = .ok host) :
    ∃ inner pieces, cs.getLast? = some ']' ∧ inner = (cs.drop 1).dropLast ∧
      ipv6? inner = some pieces ∧ host = '[' :: ipv6Text pieces ++ [']'] := by
  rw [bracketed] at h
  split at h
  · rename_i hlast
    split at h
    · rename_i pieces hpieces
      exact ⟨_, pieces, hlast, rfl, hpieces, (Except.ok.inj h).symm⟩
    · exact nomatch h
  · exact nomatch h

theorem bracketed_eq {inner : List Char} {pieces : List Nat} (h : ipv6? inner = some pieces) :
    bracketed ('[' :: inner ++ [']']) = .ok ('[' :: ipv6Text pieces ++ [']']) := by
  rw [bracketed, List.getLast?_concat]
  simp only [List.cons_append, List.drop_succ_cons, List.drop_zero, List.dropLast_concat, h]

theorem of_mem_ipv6Text {pieces : List Nat} (hc : c ∈ ipv6Text pieces) :
    isHexDigit c = true ∨ c = ':' := by
  rcases ipv6Text_cases pieces with htext | ⟨front, back, k, -, -, htext⟩
  · exact of_mem_piecesText (htext ▸ hc)
  · rw [htext] at hc
    rcases List.mem_append.mp hc with hc | hc
    · rcases List.mem_append.mp hc with hc | hc
      · exact of_mem_piecesText hc
      · right
        simpa using hc
    · exact of_mem_piecesText hc

theorem bracketed_spelled (h : bracketed cs = .ok host) :
    IsSpelled host ∧ host.head? = some '[' ∧ bracketed host = .ok host := by
  obtain ⟨inner, pieces, -, -, hpieces, rfl⟩ := of_bracketed h
  obtain ⟨⟨hlength, hmost⟩, -⟩ := of_ipv6? hpieces
  exact ⟨.number fun c hc => of_mem_ipv6Text hc, rfl, bracketed_eq (ipv6?_ipv6Text hlength hmost)⟩

theorem isHostChar_of_ascii (hc : c.toNat < 0x80) (hforbidden : isForbidden c = false) :
    isHostChar c = true ∧ c ≠ '%' := by
  have hall : ∀ c : Char, c.toNat < 0x80 → isForbidden c = false →
      isHostChar c = true ∧ c ≠ '%' :=
    forall_ascii (by decide +kernel)
  exact hall c hc hforbidden

theorem special_nameOf {parts : List (List Char)} (hparts : AreParts parts)
    (hforbidden : (nameOf parts).any isForbidden = false) (hne : nameOf parts ≠ []) :
    (∀ c ∈ nameOf parts, isHostChar c = true) ∧ special (nameOf parts) =
      if endsInNumber (nameOf parts) then
        match ipv4? (nameOf parts) with
        | some n => .ok (ipv4Text n)
        | none => .error .ipv4
      else .ok (nameOf parts) := by
  have hchars : ∀ c ∈ nameOf parts, isHostChar c = true ∧ c ≠ '%' := by
    intro c hc
    have hthis : isForbidden c = false := by simpa using List.any_eq_false.mp hforbidden c hc
    exact isHostChar_of_ascii (Domain.of_mem_nameOf hparts hc).1 hthis
  refine ⟨fun c hc => (hchars c hc).1, ?_⟩
  have hpercent : '%' ∉ nameOf parts := fun hmem => (hchars _ hmem).2 rfl
  have hhead := head?_ne_of_isHostChar fun c hc => (hchars c hc).1
  rw [special, if_neg hhead, Utf8.encode_ofList, Percent.decode_bytes hpercent,
    Domain.toAscii?_nameOf hparts hforbidden]
  split
  · rename_i hnone
    exact nomatch hnone
  · rename_i hnil
    exact absurd (Option.some.inj hnil) hne
  · rename_i name hname heq
    obtain rfl := Option.some.inj heq
    rfl

theorem isPrefixOf_mark_of_digits (hcs : ∀ c ∈ cs, c.isDigit = true) :
    Domain.mark.isPrefixOf cs = false := by
  cases cs with
  | nil => rfl
  | cons c cs =>
      have hc : ('x' == c) = false := by
        rw [beq_eq_false_iff_ne]
        rintro rfl
        exact absurd (hcs 'x' List.mem_cons_self) (by decide)
      rw [Domain.mark, List.isPrefixOf, hc, Bool.false_and]

theorem of_isDigit (hc : c.isDigit = true) : (c.toNat < 0x80 ∧ c.toLower = c ∧ c ≠ '.') ∧
    isForbidden c = false ∧ Domain.direction c = .number := by
  have hall : ∀ c : Char, c.toNat < 0x80 → c.isDigit = true →
      c.toLower = c ∧ c ≠ '.' ∧ isForbidden c = false :=
    forall_ascii (by decide)
  have hascii := ascii_of_isDigit hc
  obtain ⟨hlower, hdot, hforbidden⟩ := hall c hascii hc
  refine ⟨⟨hascii, hlower, hdot⟩, hforbidden, ?_⟩
  rw [Domain.direction, if_pos (Domain.isIn_numberTable_of_isDigit hc)]

theorem areParts_of_digits {parts : List (List Char)} (hne : parts ≠ [])
    (hdigits : ∀ part ∈ parts, ∀ c ∈ part, c.isDigit = true) :
    AreParts parts ∧ nameOf parts = ['.'].intercalate parts := by
  have hfold : parts.map Domain.fold = parts := by
    refine (List.map_congr_left fun part hpart => ?_).trans (List.map_id parts)
    have hascii : part.all Domain.isAscii = true := List.all_eq_true.mpr fun c hc =>
      decide_eq_true (ascii_of_isDigit (hdigits part hpart c hc))
    rw [Domain.fold, if_pos hascii, id]
  have hright : parts.any Domain.hasRight = false := by
    rw [List.any_eq_false]
    intro part hpart
    rw [Domain.hasRight, Bool.not_eq_true, List.any_eq_false]
    intro c hc
    rw [(of_isDigit (hdigits part hpart c hc)).2.2]
    decide
  refine ⟨⟨hne, fun part hpart => ?_, by rw [hright]; rfl⟩, by rw [nameOf, hfold]⟩
  exact Domain.isPart_ascii (fun c hc => (of_isDigit (hdigits part hpart c hc)).1)
    (isPrefixOf_mark_of_digits (hdigits part hpart))

theorem special_ipv4Text (hn : n < 2 ^ 32) : (∀ c ∈ ipv4Text n, isHostChar c = true) ∧
    ipv4Text n ≠ [] ∧ special (ipv4Text n) = .ok (ipv4Text n) := by
  have hdigits : ∀ part ∈ parts (ipv4Text n), ∀ c ∈ part, c.isDigit = true := by
    intro part hpart c hc
    rw [parts_ipv4Text] at hpart
    obtain ⟨m, -, rfl⟩ := List.mem_map.mp hpart
    exact isDigit_of_mem_toDigits hc
  have hne : parts (ipv4Text n) ≠ [] := by simp [parts_ipv4Text]
  obtain ⟨hparts, hname⟩ := areParts_of_digits hne hdigits
  have htext : nameOf (parts (ipv4Text n)) = ipv4Text n := by
    rw [hname, parts_ipv4Text]
    rfl
  have hforbidden : (ipv4Text n).any isForbidden = false := by
    rw [List.any_eq_false]
    intro c hc
    rw [Bool.not_eq_true]
    rcases mem_intercalate hc with rfl | ⟨part, hpart, hc⟩
    · decide
    · obtain ⟨m, -, rfl⟩ := List.mem_map.mp hpart
      exact (of_isDigit (isDigit_of_mem_toDigits hc)).2.1
  have hnil : ipv4Text n ≠ [] := by
    intro hnil
    have hends := endsInNumber_ipv4Text n
    rw [hnil] at hends
    exact absurd hends (by decide)
  have hspecial := special_nameOf hparts (by rwa [htext]) (by rwa [htext])
  rw [htext, endsInNumber_ipv4Text, ipv4?_ipv4Text hn] at hspecial
  exact ⟨hspecial.1, hnil, hspecial.2⟩

/-- A host that has been read is spelled in the one way and read as it stands. -/
theorem special_spelled (h : special cs = .ok host) :
    IsSpelled host ∧ host ≠ [] ∧ special host = .ok host := by
  rw [special] at h
  split at h
  · obtain ⟨hspelled, hhead, hbracketed⟩ := bracketed_spelled h
    refine ⟨hspelled, ?_, ?_⟩
    · rintro rfl
      exact nomatch hhead
    · rw [special, if_pos hhead, hbracketed]
  split at h
  · exact nomatch h
  · exact nomatch h
  · rename_i name hname hascii
    obtain ⟨parts, hparts, rfl, hforbidden⟩ := Domain.toAscii?_eq_some hascii
    have hnil : nameOf parts ≠ [] := hname
    obtain ⟨hchars, hspecial⟩ := special_nameOf hparts hforbidden hnil
    split at h
    · split at h
      · rename_i n hn
        obtain rfl := Except.ok.inj h
        obtain ⟨hchars, hnil, hspecial⟩ := special_ipv4Text (ipv4?_lt hn)
        exact ⟨.name hchars, hnil, hspecial⟩
      · exact nomatch h
    · rename_i hends
      obtain rfl := Except.ok.inj h
      rw [if_neg hends] at hspecial
      exact ⟨.name hchars, hnil, hspecial⟩

theorem isHostChar_capitalDigit (hn : n < 16) : isHostChar (capitalDigit n) = true := by
  have hall : ∀ n : Fin 16, isHostChar (capitalDigit n) = true := by decide
  exact hall ⟨n, hn⟩

theorem isHostChar_of_mem_escapeByte {b : UInt8} (hb : isSeparator (Char.ofNat b.toNat) = false)
    (hc : c ∈ escapeByte b) : isHostChar c = true := by
  have hless := b.toNat_lt
  simp only [escapeByte] at hc
  split at hc
  · simp only [List.mem_cons, List.not_mem_nil, or_false] at hc
    rcases hc with rfl | rfl | rfl
    · decide
    · exact isHostChar_capitalDigit (by omega)
    · exact isHostChar_capitalDigit (Nat.mod_lt _ (by decide))
  · rename_i hvisible
    have hall : ∀ n : Fin 0x80, isSeparator (Char.ofNat n) = false →
        ¬ (n.val < 0x20 ∨ 0x7E < n.val) → isHostChar (Char.ofNat n) = true := by
      decide +kernel
    rw [List.mem_singleton.mp hc]
    exact hall ⟨b.toNat, by omega⟩ hb hvisible

theorem isSeparator_of_mem_bytes (hcs : ¬ cs.any isSeparator = true) {b : UInt8}
    (hb : b ∈ Utf8.bytes cs) : isSeparator (Char.ofNat b.toNat) = false := by
  obtain ⟨c, hc, hb⟩ := List.mem_flatMap.mp hb
  by_cases hascii : c.toNat < 0x80
  · rw [Utf8.encodeChar_ascii hascii, List.mem_singleton] at hb
    rw [hb, Utf8.toNat_byte hascii, Char.ofNat_toNat]
    exact Bool.eq_false_iff.mpr fun hseparator => hcs (List.any_eq_true.mpr ⟨c, hc, hseparator⟩)
  · have hall : ∀ n : Fin 0x100, 0x80 ≤ n.val → isSeparator (Char.ofNat n) = false := by
      decide +kernel
    exact hall ⟨b.toNat, b.toNat_lt⟩ (Utf8.le_of_mem_encodeChar (Nat.le_of_not_lt hascii) hb)

theorem escapeByte_byte (hc : isHostChar c = true) : escapeByte (Json.byte c) = [c] := by
  simp only [isHostChar, Bool.and_eq_true, decide_eq_true_eq] at hc
  obtain ⟨⟨hleast, hmost⟩, -⟩ := hc
  simp only [escapeByte, Utf8.toNat_byte (Nat.lt_succ_of_lt hmost)]
  rw [if_neg (by omega), Char.ofNat_toNat]

theorem flatMap_escapeByte (hcs : ∀ c ∈ cs, isHostChar c = true) :
    (Utf8.bytes cs).flatMap escapeByte = cs := by
  induction cs with
  | nil => rfl
  | cons c cs ih =>
      obtain ⟨hc, hcs⟩ := List.forall_mem_cons.mp hcs
      have hascii : c.toNat < 0x80 := by
        simp only [isHostChar, Bool.and_eq_true, decide_eq_true_eq] at hc
        omega
      rw [Utf8.bytes_cons_ascii hascii, List.flatMap_cons, escapeByte_byte hc, ih hcs]
      rfl

theorem plain_spelled (h : plain cs = .ok host) : IsSpelled host ∧ plain host = .ok host := by
  rw [plain] at h
  split at h
  · obtain ⟨hspelled, hhead, hbracketed⟩ := bracketed_spelled h
    refine ⟨hspelled, ?_⟩
    rw [plain, if_pos hhead, hbracketed]
  split at h
  · exact nomatch h
  · rename_i hseparators
    obtain rfl := Except.ok.inj h
    rw [Utf8.encode_ofList]
    have hchars : ∀ c ∈ (Utf8.bytes cs).flatMap escapeByte, isHostChar c = true := by
      intro c hc
      obtain ⟨b, hb, hc⟩ := List.mem_flatMap.mp hc
      exact isHostChar_of_mem_escapeByte (isSeparator_of_mem_bytes hseparators hb) hc
    have hseparators' : ((Utf8.bytes cs).flatMap escapeByte).any isSeparator = false := by
      rw [List.any_eq_false]
      intro c hc
      have hthis := hchars c hc
      rw [isHostChar, Bool.and_eq_true, Bool.not_eq_true'] at hthis
      simp [hthis.2]
    refine ⟨.name hchars, ?_⟩
    rw [plain, if_neg (head?_ne_of_isHostChar hchars), hseparators', if_neg Bool.false_ne_true,
      Utf8.encode_ofList, flatMap_escapeByte hchars]

end Weblog.Host
