import Weblog.Domain.Name
import Weblog.Proofs.Domain.Punycode
import Weblog.Proofs.Domain.Table
import Weblog.Proofs.Text.Percent
import Weblog.Proofs.Text.Split

namespace Weblog.Domain

open Weblog.Text

variable {c : Char} {cs ds part name : List Char} {parts : List (List Char)}

theorem takeApart_ascii (depth : Nat) (hc : c.toNat < 0x80) : takeApart depth c = [c] := by
  cases depth with
  | zero => rfl
  | succ depth =>
      have hless : ¬ (firstSyllable ≤ c.toNat ∧
          c.toNat - firstSyllable < leads * vowels * tails) := by
        have : firstSyllable = 0xAC00 := rfl
        omega
      have hsyllable : syllableParts? c = none := if_neg hless
      have hfind : compositions.find? (·.1 == c) = none := by
        rw [List.find?_eq_none]
        intro e he hcode
        have := (compositions_beyondAscii e he).1
        rw [beq_iff_eq.mp hcode] at this
        omega
      unfold takeApart
      rw [hsyllable, hfind]

theorem markClass_ascii (hc : c.toNat < 0x80) : markClass c = 0 := by
  have hfind : markClasses.find? (·.holds c) = none := by
    rw [List.find?_eq_none]
    intro e he
    simp [holds_eq_false markClasses_beyondAscii hc e he]
  rw [markClass, hfind]

theorem compose?_ascii (a : Char) {b : Char} (hb : b.toNat < 0x80) : compose? a b = none := by
  have hsyllable : syllable? a b = none := by
    rw [syllable?, if_neg, if_neg]
    · simp only [firstTail]
      omega
    · simp only [firstVowel]
      omega
  have hfind : (compositions.find? fun e => e.2.1 == a && e.2.2 == b) = none := by
    rw [List.find?_eq_none]
    intro e he hparts
    have := (compositions_beyondAscii e he).2
    rw [beq_iff_eq.mp (Bool.and_eq_true_iff.mp hparts).2] at this
    omega
  rw [compose?, hsyllable, hfind]
  rfl

theorem orderMarks_ascii (hcs : ∀ c ∈ cs, c.toNat < 0x80) : orderMarks [] cs = cs := by
  induction cs with
  | nil => simp [orderMarks]
  | cons c cs ih =>
      obtain ⟨hc, hcs⟩ := List.forall_mem_cons.mp hcs
      rw [orderMarks, if_pos (markClass_ascii hc), ih hcs]
      simp

theorem putTogether_ascii (base : Char) (last : Nat) (hcs : ∀ c ∈ cs, c.toNat < 0x80) :
    putTogether base [] last cs = base :: cs := by
  induction cs generalizing base last with
  | nil => rfl
  | cons c cs ih =>
      obtain ⟨hc, hcs⟩ := List.forall_mem_cons.mp hcs
      rw [putTogether, List.isEmpty_nil, Bool.true_or, if_pos rfl, compose?_ascii base hc]
      simp only
      rw [if_pos (markClass_ascii hc), ih _ _ hcs]
      rfl

theorem normalize_ascii (hcs : ∀ c ∈ cs, c.toNat < 0x80) : normalize cs = cs := by
  have happart : cs.flatMap (takeApart deepest) = cs := by
    induction cs with
    | nil => rfl
    | cons c cs ih =>
        obtain ⟨hc, hcs⟩ := List.forall_mem_cons.mp hcs
        rw [List.flatMap_cons, takeApart_ascii _ hc, ih hcs]
        rfl
  rw [normalize, happart, orderMarks_ascii hcs]
  cases cs with
  | nil => rfl
  | cons c cs => exact putTogether_ascii c _ (List.forall_mem_cons.mp hcs).2

/-- The case of letters makes no difference in a name. -/
theorem mapAll?_flatMap_lowerChar (cs : List Char) :
    mapAll? (cs.flatMap lowerChar) = mapAll? cs := by
  have hflat : ((cs.flatMap lowerChar).mapM mapChar?).map List.flatten =
      (cs.mapM mapChar?).map List.flatten := by
    -- a character that may not stand in a name refuses both sides
    induction cs with
    | nil => rfl
    | cons c cs ih =>
        rw [List.flatMap_cons, List.mapM_append, List.mapM_cons, ← mapM_mapChar?_lowerChar c]
        cases (lowerChar c).mapM mapChar? with
        | none => rfl
        | some front =>
            cases hlower : (cs.flatMap lowerChar).mapM mapChar? with
            | none =>
                rw [hlower, Option.map_none, eq_comm, Option.map_eq_none_iff] at ih
                simp [ih]
            | some back =>
                rw [hlower, Option.map_some, eq_comm, Option.map_eq_some_iff] at ih
                obtain ⟨back', hback', heq⟩ := ih
                simp [hback', heq]
  have hmap : ∀ cs, mapAll? cs = ((cs.mapM mapChar?).map List.flatten).map normalize := by
    intro cs
    rw [mapAll?]
    cases cs.mapM mapChar? <;> rfl
  rw [hmap, hmap, hflat]

theorem mapAll?_congr (h : cs.flatMap lowerChar = ds.flatMap lowerChar) :
    mapAll? cs = mapAll? ds := by
  rw [← mapAll?_flatMap_lowerChar cs, h, mapAll?_flatMap_lowerChar]

theorem mapChar?_ascii (hc : c.toNat < 0x80) : mapChar? c = some [c.toLower] :=
  if_pos hc

theorem mapAll?_ascii (hcs : ∀ c ∈ cs, c.toNat < 0x80 ∧ c.toLower = c) : mapAll? cs = some cs := by
  have hmap : cs.mapM mapChar? = some (cs.map ([·])) := by
    rw [mapM_eq_some_iff, List.forall₂_map_right_iff, List.forall₂_same]
    intro c hc
    rw [mapChar?_ascii (hcs c hc).1, (hcs c hc).2]
  have hflat : (cs.map ([·])).flatten = cs := by
    rw [← List.flatMap_def, List.flatMap_singleton']
  rw [mapAll?, hmap, Option.bind_eq_bind, Option.bind_some, hflat,
    normalize_ascii fun c hc => (hcs c hc).1]
  rfl

theorem joinersFit_ascii (before : List Char) (hcs : ∀ c ∈ cs, c.toNat < 0x80) :
    joinersFit before cs = true := by
  induction cs generalizing before with
  | nil => rfl
  | cons c cs ih =>
      obtain ⟨hc, hcs⟩ := List.forall_mem_cons.mp hcs
      have hjoiner : c ≠ joiner := by
        rintro rfl
        exact absurd hc (by decide)
      have hnonJoiner : c ≠ nonJoiner := by
        rintro rfl
        exact absurd hc (by decide)
      rw [joinersFit, if_neg hjoiner, if_neg hnonJoiner, ih _ hcs]
      rfl

theorem isPart_ascii (hpart : ∀ c ∈ part, c.toNat < 0x80 ∧ c.toLower = c ∧ c ≠ '.')
    (hmark : mark.isPrefixOf part = false) : isPart part = true := by
  have hascii : ∀ c ∈ part, c.toNat < 0x80 := fun c hc => (hpart c hc).1
  have hchars : (part.all fun c => mapChar? c == some [c] && c != '.') = true := by
    rw [List.all_eq_true]
    intro c hc
    obtain ⟨hc, hlower, hdot⟩ := hpart c hc
    simp [mapChar?_ascii hc, hlower, hdot]
  have hhead : part.head?.any (isIn (readTable markText)) = false := by
    cases part with
    | nil => rfl
    | cons c part => exact isIn_eq_false marks_beyondAscii (hascii c List.mem_cons_self)
  rw [isPart, hchars, normalize_ascii hascii, hhead, hmark, joinersFit_ascii [] hascii]
  simp

theorem of_isPart (h : isPart part = true) :
    (∀ c ∈ part, c.toNat < 0x80 → c.toLower = c) ∧ '.' ∉ part ∧ mark.isPrefixOf part = false := by
  simp only [isPart, Bool.and_eq_true, List.all_eq_true, Bool.not_eq_true', beq_iff_eq,
    bne_iff_ne] at h
  obtain ⟨⟨⟨⟨hchars, -⟩, -⟩, hmark⟩, -⟩ := h
  refine ⟨fun c hc hascii => ?_, fun hdot => (hchars _ hdot).2 rfl, hmark⟩
  have hmap := (hchars c hc).1
  rw [mapChar?_ascii hascii] at hmap
  simpa using hmap

theorem isPart_of_expand? {other : List Char} (h : expand? part = some other) :
    isPart other = true := by
  simp only [expand?] at h
  split at h
  · split at h
    · obtain ⟨decoded, -, h⟩ := Option.bind_eq_some_iff.mp h
      split at h
      · rename_i hother
        obtain rfl := Option.some.inj h
        exact (Bool.and_eq_true_iff.mp hother).1
      · exact nomatch h
    · exact nomatch h
  split at h
  · rename_i hpart
    obtain rfl := Option.some.inj h
    exact hpart
  · exact nomatch h

theorem of_mem_fold (hpart : isPart part = true) (hc : c ∈ fold part) :
    c.toNat < 0x80 ∧ c.toLower = c ∧ c ≠ '.' := by
  obtain ⟨hlower, hdot, -⟩ := of_isPart hpart
  have hkept : c ∈ part → c.toNat < 0x80 → c.toNat < 0x80 ∧ c.toLower = c ∧ c ≠ '.' :=
    fun hc hascii => ⟨hascii, hlower c hc hascii, fun heq => hdot (heq ▸ hc)⟩
  rw [fold] at hc
  split at hc
  · rename_i hall
    exact hkept hc (of_decide_eq_true (List.all_eq_true.mp hall c hc))
  rcases List.mem_append.mp hc with hc | hc
  · have hmark : ∀ c ∈ mark, c.toNat < 0x80 ∧ c.toLower = c ∧ c ≠ '.' :=
      forall_mem_of_all (by decide)
    exact hmark c hc
  rcases Punycode.mem_encode hc with ⟨hc, hbasic⟩ | rfl | ⟨d, hd, rfl⟩
  · exact hkept hc (of_decide_eq_true hbasic)
  · decide
  · have hdigits : ∀ d : Fin 36, (Punycode.digit d).toNat < 0x80 ∧
        (Punycode.digit d).toLower = Punycode.digit d ∧ Punycode.digit d ≠ '.' := by decide
    exact hdigits ⟨d, hd⟩

theorem expand?_fold (hpart : isPart part = true) : expand? (fold part) = some part := by
  obtain ⟨-, -, hmark⟩ := of_isPart hpart
  by_cases hascii : part.all isAscii = true
  · rw [fold, if_pos hascii, expand?, hmark, if_neg Bool.false_ne_true, if_pos hpart]
  · have hfold : fold part = mark ++ Punycode.encode part := if_neg hascii
    have hprefix : mark.isPrefixOf (mark ++ Punycode.encode part) = true :=
      List.isPrefixOf_iff_prefix.mpr (List.prefix_append _ _)
    have hall : (mark ++ Punycode.encode part).all isAscii = true := by
      rw [List.all_eq_true]
      intro c hc
      exact decide_eq_true (of_mem_fold hpart (hfold ▸ hc)).1
    have hbeyond : part.any (!isAscii ·) = true := by
      simpa using hascii
    rw [hfold, expand?, if_pos hprefix, if_pos hall, List.drop_left, Punycode.decode?_encode,
      Option.bind_eq_bind, Option.bind_some]
    simp only [hpart, hbeyond, Bool.and_self, if_true]

/-- The parts of a name in any script. -/
structure AreParts (parts : List (List Char)) : Prop where
  ne_nil : parts ≠ []
  isPart : ∀ part ∈ parts, isPart part = true
  keepDirection : (!parts.any hasRight || parts.all keepsDirection) = true

/-- The name of the parts in ASCII. -/
def nameOf (parts : List (List Char)) : List Char :=
  ['.'].intercalate (parts.map fold)

theorem of_mem_nameOf (h : AreParts parts) (hc : c ∈ nameOf parts) :
    c.toNat < 0x80 ∧ c.toLower = c := by
  rcases mem_intercalate hc with rfl | ⟨part, hpart, hc⟩
  · decide
  · obtain ⟨part, hmem, rfl⟩ := List.mem_map.mp hpart
    obtain ⟨hascii, hlower, -⟩ := of_mem_fold (h.isPart part hmem) hc
    exact ⟨hascii, hlower⟩

theorem toAscii?_congr {bytes bytes' : Bytes}
    (h : (Utf8.decodeLossy bytes).toList.flatMap lowerChar =
      (Utf8.decodeLossy bytes').toList.flatMap lowerChar) : toAscii? bytes = toAscii? bytes' := by
  rw [toAscii?, toAscii?, mapAll?_congr h]

theorem toAscii?_eq_some {bytes : Bytes} (h : toAscii? bytes = some name) :
    ∃ parts, AreParts parts ∧ name = nameOf parts ∧ name.any isForbidden = false := by
  obtain ⟨cs, -, h⟩ := Option.bind_eq_some_iff.mp h
  obtain ⟨parts, hparts, h⟩ := Option.bind_eq_some_iff.mp h
  simp only at h
  split at h
  · rename_i hfits
    obtain rfl := Option.some.inj h
    obtain ⟨hdirection, hforbidden⟩ := Bool.and_eq_true_iff.mp hfits
    refine ⟨parts, ⟨?_, ?_, hdirection⟩, rfl, by simpa using hforbidden⟩
    · rintro rfl
      rw [mapM_eq_some_iff] at hparts
      exact splitAt_ne_nil '.' cs (List.forall₂_nil_right_iff.mp hparts)
    · intro part hpart
      obtain ⟨given, -, hgiven⟩ := exists_of_mem_mapM hparts hpart
      exact isPart_of_expand? hgiven
  · exact nomatch h

theorem toAscii?_nameOf (h : AreParts parts) (hforbidden : (nameOf parts).any isForbidden = false) :
    toAscii? (Utf8.bytes (nameOf parts)) = some (nameOf parts) := by
  have hsplit : splitAt '.' (nameOf parts) = parts.map fold := by
    apply splitAt_intercalate
    · simpa using h.ne_nil
    · intro part hpart hdot
      obtain ⟨part, hmem, rfl⟩ := List.mem_map.mp hpart
      exact (of_mem_fold (h.isPart part hmem) hdot).2.2 rfl
  have hexpand : (parts.map fold).mapM expand? = some parts := by
    rw [mapM_eq_some_iff, List.forall₂_map_left_iff, List.forall₂_same]
    exact fun part hpart => expand?_fold (h.isPart part hpart)
  rw [toAscii?, Utf8.decodeLossy_bytes, String.toList_ofList,
    mapAll?_ascii fun c hc => of_mem_nameOf h hc]
  simp only [Option.bind_eq_bind, Option.bind_some, hsplit, hexpand]
  have hname : ['.'].intercalate (parts.map fold) = nameOf parts := rfl
  rw [h.keepDirection, hname, hforbidden]
  rfl

end Weblog.Domain
