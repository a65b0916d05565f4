import Weblog.Proofs.Http.Number

namespace Weblog.Host

open Weblog.Text

variable {cs group : List Char} {groups : List (List Char)} {c d : Char} {n : Nat}
  {pieces : List Nat}

theorem splitGap?_cons_cons (c d : Char) (cs : List Char) : splitGap? (c :: d :: cs) =
    if c = ':' ∧ d = ':' then some ([], cs)
    else (splitGap? (d :: cs)).map fun (before, after) => (c :: before, after) := by
  split
  · rename_i h
    rw [h.1, h.2, splitGap?]
  · rename_i h
    rw [splitGap?]
    · exact fun heq => nomatch heq
    · rintro rest rfl heq
      obtain ⟨rfl, rfl⟩ := List.cons.inj heq
      exact h ⟨rfl, rfl⟩

theorem splitGap?_cons_of_ne (hc : c ≠ ':') (cs : List Char) : splitGap? (c :: cs) =
    (splitGap? cs).map fun (before, after) => (c :: before, after) := by
  cases cs with
  | nil => rfl
  | cons d cs => rw [splitGap?_cons_cons, if_neg fun h => hc h.1]

theorem splitGap?_append (hcs : ':' ∉ cs) (rest : List Char) : splitGap? (cs ++ rest) =
    (splitGap? rest).map fun (before, after) => (cs ++ before, after) := by
  induction cs with
  | nil => cases h : splitGap? rest <;> simp [h]
  | cons c cs ih =>
      obtain ⟨hc, hcs⟩ : ':' ≠ c ∧ ':' ∉ cs := by simpa using hcs
      rw [List.cons_append, splitGap?_cons_of_ne (Ne.symm hc), ih hcs, Option.map_map]
      rfl

theorem splitGap?_intercalate (hgroups : ∀ group ∈ groups, group ≠ [] ∧ ':' ∉ group)
    (rest : List Char) : splitGap? ([':'].intercalate groups ++ rest) =
      (splitGap? rest).map fun (before, after) => ([':'].intercalate groups ++ before, after) := by
  induction groups with
  | nil => cases h : splitGap? rest <;> simp [h]
  | cons group groups ih =>
      obtain ⟨⟨-, hgroup⟩, hgroups⟩ := List.forall_mem_cons.mp hgroups
      cases groups with
      | nil => simpa using splitGap?_append hgroup rest
      | cons next groups =>
          obtain ⟨⟨hne, hnext⟩, -⟩ := List.forall_mem_cons.mp hgroups
          obtain ⟨e, es, rfl⟩ := List.exists_cons_of_ne_nil hne
          have he : e ≠ ':' := fun heq => hnext (heq ▸ List.mem_cons_self)
          obtain ⟨tail, htail⟩ : ∃ tail, [':'].intercalate ((e :: es) :: groups) = e :: tail := by
            cases groups with
            | nil => exact ⟨es, by simp⟩
            | cons => exact ⟨_, by rw [List.intercalate_cons_cons]; rfl⟩
          -- the colon behind a group is no gap, because the next group is not empty
          have ih := ih hgroups
          rw [htail] at ih
          rw [List.intercalate_cons_cons, List.append_assoc, List.append_assoc,
            splitGap?_append hgroup, htail, List.singleton_append, List.cons_append,
            splitGap?_cons_cons, if_neg fun h => he h.2, ← List.cons_append, ih, Option.map_map,
            Option.map_map]
          cases splitGap? rest <;> simp

theorem groups_intercalate (hgroups : ∀ group ∈ groups, group ≠ [] ∧ ':' ∉ group) :
    Host.groups ([':'].intercalate groups) = groups := by
  cases groups with
  | nil => rfl
  | cons group groups =>
      have hsplit := splitAt_intercalate (List.cons_ne_nil group groups)
        fun group hgroup => (hgroups group hgroup).2
      have hne : ([':'].intercalate (group :: groups)).isEmpty = false := by
        rw [List.isEmpty_eq_false_iff]
        intro hnil
        rw [hnil] at hsplit
        have hgroup := (hgroups group List.mem_cons_self).1
        exact hgroup (List.cons.inj hsplit).1.symm
      rw [Host.groups, hne, if_neg Bool.false_ne_true, hsplit]

theorem piece?_toDigits (hn : n < 65536) : pieces?.piece? (Nat.toDigits 16 n) = some [n] := by
  have hlength : (Nat.toDigits 16 n).length ≤ 4 :=
    (Nat.length_toDigits_le_iff (by decide) (by decide)).mpr hn
  have hall : (Nat.toDigits 16 n).all isHexDigit = true :=
    List.all_eq_true.mpr fun c hc => isHexDigit_of_mem_toDigits hc
  have hvalue : ofDigits 16 (Nat.toDigits 16 n) = n := ofDigits_toDigits (by decide) (by decide) n
  simp [pieces?.piece?, hlength, hall, hvalue]

theorem pieces?_map_toDigits (hpieces : ∀ n ∈ pieces, n < 65536) :
    pieces? (pieces.map (Nat.toDigits 16)) = some pieces := by
  induction pieces with
  | nil => rfl
  | cons n pieces ih =>
      obtain ⟨hn, hpieces⟩ := List.forall_mem_cons.mp hpieces
      cases pieces with
      | nil =>
          have hdot : (Nat.toDigits 16 n).contains '.' = false := by
            rw [Bool.eq_false_iff, Ne, List.contains_iff_mem]
            exact fun hmem => absurd (isHexDigit_of_mem_toDigits hmem) (by decide)
          simp only [List.map_cons, List.map_nil, pieces?, hdot, piece?_toDigits hn]
          rfl
      | cons m pieces =>
          have ih := ih hpieces
          rw [List.map_cons] at ih
          rw [List.map_cons, List.map_cons, pieces?, ih, piece?_toDigits hn]
          · rfl
          · exact fun h => nomatch h

theorem toDigits_group (pieces : List Nat) :
    ∀ group ∈ pieces.map (Nat.toDigits 16), group ≠ [] ∧ ':' ∉ group := by
  intro group hgroup
  obtain ⟨n, -, rfl⟩ := List.mem_map.mp hgroup
  exact ⟨Nat.toDigits_ne_nil,
    fun hmem => absurd (isHexDigit_of_mem_toDigits hmem) (by decide)⟩

theorem pieces?_groups_piecesText (hpieces : ∀ n ∈ pieces, n < 65536) :
    pieces? (Host.groups (piecesText pieces)) = some pieces := by
  rw [piecesText, groups_intercalate (toDigits_group _), pieces?_map_toDigits hpieces]

theorem of_mem_piecesText (hc : c ∈ piecesText pieces) : isHexDigit c = true ∨ c = ':' := by
  rcases mem_intercalate hc with hcolon | ⟨group, hgroup, hc⟩
  · exact .inr hcolon
  · obtain ⟨n, -, rfl⟩ := List.mem_map.mp hgroup
    exact .inl (isHexDigit_of_mem_toDigits hc)

theorem eq_replicate_zeros (pieces : List Nat) :
    pieces = List.replicate (zeros pieces) 0 ++ pieces.drop (zeros pieces) := by
  induction pieces with
  | nil => rfl
  | cons n pieces ih =>
      rw [zeros, List.takeWhile_cons]
      split
      · rename_i hn
        obtain rfl := beq_iff_eq.mp hn
        rw [List.length_cons, List.replicate_succ, List.cons_append, List.drop_succ_cons]
        exact congrArg (0 :: ·) ih
      · rfl

theorem longestRun_spec (i : Nat) (pieces : List Nat) : ∃ front back,
    pieces = front ++ List.replicate (longestRun i pieces).2 0 ++ back ∧
      (longestRun i pieces).1 = i + front.length := by
  induction pieces generalizing i with
  | nil => exact ⟨[], [], rfl, rfl⟩
  | cons n pieces ih =>
      simp only [longestRun]
      split
      · exact ⟨[], _, eq_replicate_zeros _, rfl⟩
      · obtain ⟨front, back, hpieces, hplace⟩ := ih (i + 1)
        refine ⟨n :: front, back, congrArg (n :: ·) hpieces, ?_⟩
        rw [hplace, List.length_cons]
        omega

theorem ipv6Text_cases (pieces : List Nat) : ipv6Text pieces = piecesText pieces ∨
    ∃ front back k, 2 ≤ k ∧ pieces = front ++ List.replicate k 0 ++ back ∧
      ipv6Text pieces = piecesText front ++ [':', ':'] ++ piecesText back := by
  obtain ⟨front, back, hpieces, hplace⟩ := longestRun_spec 0 pieces
  generalize hrun : longestRun 0 pieces = run at hpieces hplace
  obtain ⟨place, k⟩ := run
  simp only [Nat.zero_add] at hpieces hplace
  rw [ipv6Text, hrun]
  simp only
  split
  · exact .inl rfl
  · rename_i hk
    refine .inr ⟨front, back, k, by omega, hpieces, ?_⟩
    have htake : pieces.take place = front := by
      rw [hpieces, hplace, List.append_assoc, List.take_left]
    have hdrop : pieces.drop (place + k) = back := by
      have hlength : place + k = (front ++ List.replicate k 0).length := by simp [hplace]
      rw [hpieces, hlength, List.drop_left]
    rw [htake, hdrop]

theorem ipv6?_ipv6Text (hlength : pieces.length = 8) (hpieces : ∀ n ∈ pieces, n < 65536) :
    ipv6? (ipv6Text pieces) = some pieces := by
  rcases ipv6Text_cases pieces with htext | ⟨front, back, k, hk, rfl, htext⟩
  · have hgap : splitGap? (piecesText pieces) = none := by
      have hsplit := splitGap?_intercalate (toDigits_group pieces) []
      rwa [List.append_nil] at hsplit
    rw [htext, ipv6?, hgap]
    simp [pieces?_groups_piecesText hpieces, hlength]
  · have hgap : splitGap? (piecesText front ++ [':', ':'] ++ piecesText back) =
        some (piecesText front, piecesText back) := by
      have hsplit := splitGap?_intercalate (toDigits_group front)
        (':' :: ':' :: piecesText back)
      simpa [splitGap?, piecesText] using hsplit
    obtain ⟨hfront, hback⟩ := List.forall_mem_append.mp hpieces
    obtain ⟨hfront, -⟩ := List.forall_mem_append.mp hfront
    have hdot : (piecesText front).contains '.' = false := by
      rw [Bool.eq_false_iff, Ne, List.contains_iff_mem]
      intro hmem
      exact absurd (of_mem_piecesText hmem) (by decide)
    simp only [List.length_append, List.length_replicate] at hlength
    have hleft : 8 - front.length - back.length = k := by omega
    have hfits : (!(piecesText front).contains '.') = true ∧ front.length + back.length ≤ 7 :=
      ⟨by rw [hdot]; rfl, by omega⟩
    rw [htext, ipv6?, hgap]
    simp only [pieces?_groups_piecesText hfront, pieces?_groups_piecesText hback,
      Option.bind_eq_bind, Option.bind_some]
    rw [if_pos hfits, hleft]

theorem of_piece? (h : pieces?.piece? group = some pieces) :
    (∀ n ∈ pieces, n < 65536) ∧ ∀ c ∈ group, isHexDigit c = true := by
  rw [pieces?.piece?] at h
  split at h
  · rename_i hgroup
    obtain rfl := Option.some.inj h
    simp only [Bool.and_eq_true, decide_eq_true_eq, List.all_eq_true] at hgroup
    obtain ⟨⟨-, hlength⟩, hdigits⟩ := hgroup
    refine ⟨fun n hn => ?_, hdigits⟩
    rw [List.mem_singleton.mp hn]
    exact Nat.lt_of_lt_of_le (ofDigits_lt hdigits) (Nat.pow_le_pow_right (by decide) hlength)
  · exact nomatch h

theorem of_embedded? (h : embedded? cs = some pieces) :
    (∀ n ∈ pieces, n < 65536) ∧ ∀ c ∈ cs, isHexDigit c = true ∨ c = '.' := by
  simp only [embedded?] at h
  split at h
  · rename_i hparts
    obtain ⟨-, hparts⟩ := hparts
    simp only [List.all_eq_true, Bool.and_eq_true, decide_eq_true_eq] at hparts
    split at h
    · rename_i a b c d hvalues
      obtain rfl := Option.some.inj h
      have hmost : ∀ n ∈ [a, b, c, d], n ≤ 255 := by
        intro n hn
        rw [← hvalues] at hn
        obtain ⟨part, hpart, rfl⟩ := List.mem_map.mp hn
        exact (hparts part hpart).2
      simp only [List.forall_mem_cons] at hmost
      refine ⟨?_, fun e he => ?_⟩
      · simp only [List.forall_mem_cons]
        exact ⟨by omega, by omega, fun n hn => absurd hn List.not_mem_nil⟩
      · rcases mem_splitAt (a := '.') he with hdot | ⟨part, hpart, he⟩
        · exact .inr hdot
        · have hdigit := (hparts part hpart).1.1.2 e he
          rw [isHexDigit, hdigit]
          exact .inl rfl
    · cases h
  · cases h

theorem of_pieces? (h : pieces? groups = some pieces) :
    (∀ n ∈ pieces, n < 65536) ∧
      ∀ group ∈ groups, ∀ c ∈ group, isHexDigit c = true ∨ c = '.' := by
  induction groups generalizing pieces with
  | nil =>
      obtain rfl := Option.some.inj h
      simp
  | cons group groups ih =>
      cases groups with
      | nil =>
          simp only [List.forall_mem_singleton]
          rw [pieces?] at h
          split at h
          · exact of_embedded? h
          · obtain ⟨hpieces, hdigits⟩ := of_piece? h
            exact ⟨hpieces, fun c hc => .inl (hdigits c hc)⟩
      | cons next groups =>
          rw [pieces?] at h
          · obtain ⟨first, hfirst, h⟩ := Option.bind_eq_some_iff.mp h
            obtain ⟨rest, hrest, h⟩ := Option.bind_eq_some_iff.mp h
            obtain rfl := Option.some.inj h
            obtain ⟨hpieces, hdigits⟩ := of_piece? hfirst
            obtain ⟨hpieces', hdigits'⟩ := ih hrest
            exact ⟨List.forall_mem_append.mpr ⟨hpieces, hpieces'⟩,
              List.forall_mem_cons.mpr ⟨fun c hc => .inl (hdigits c hc), hdigits'⟩⟩
          · exact fun hnil => nomatch hnil

theorem of_splitGap? {before after : List Char} (h : splitGap? cs = some (before, after)) :
    cs = before ++ ':' :: ':' :: after := by
  induction cs generalizing before with
  | nil => exact nomatch h
  | cons c cs ih =>
      cases cs with
      | nil => exact nomatch h
      | cons d cs =>
          rw [splitGap?_cons_cons] at h
          split at h
          · rename_i hgap
            obtain ⟨rfl, rfl⟩ := Prod.mk.inj (Option.some.inj h)
            rw [hgap.1, hgap.2]
            rfl
          · obtain ⟨⟨front, back⟩, hsplit, heq⟩ := Option.map_eq_some_iff.mp h
            obtain ⟨rfl, rfl⟩ := Prod.mk.inj heq
            rw [ih hsplit]
            rfl

theorem of_mem_groups (h : pieces? (Host.groups cs) = some pieces) :
    ∀ c ∈ cs, isHexDigit c = true ∨ c = ':' ∨ c = '.' := by
  intro c hc
  have hne : ¬ cs.isEmpty = true := by
    rw [List.isEmpty_iff]
    rintro rfl
    exact nomatch hc
  rw [Host.groups, if_neg hne] at h
  rcases mem_splitAt (a := ':') hc with hcolon | ⟨group, hgroup, hc⟩
  · exact .inr (.inl hcolon)
  · exact ((of_pieces? h).2 group hgroup c hc).imp_right .inr

theorem of_ipv6? (h : ipv6? cs = some pieces) :
    (pieces.length = 8 ∧ ∀ n ∈ pieces, n < 65536) ∧
      ∀ c ∈ cs, isHexDigit c = true ∨ c = ':' ∨ c = '.' := by
  rw [ipv6?] at h
  split at h
  · rename_i before after hgap
    obtain ⟨front, hfront, h⟩ := Option.bind_eq_some_iff.mp h
    obtain ⟨back, hback, h⟩ := Option.bind_eq_some_iff.mp h
    split at h
    · rename_i hfits
      obtain rfl := Option.some.inj h
      refine ⟨⟨?_, ?_⟩, ?_⟩
      · have := hfits.2
        simp only [List.length_append, List.length_replicate]
        omega
      · simp only [List.forall_mem_append]
        refine ⟨⟨(of_pieces? hfront).1, fun n hn => ?_⟩, (of_pieces? hback).1⟩
        rw [List.eq_of_mem_replicate hn]
        decide
      · rw [of_splitGap? hgap]
        simp only [List.forall_mem_append, List.forall_mem_cons]
        exact ⟨of_mem_groups hfront, .inr (.inl trivial), .inr (.inl trivial),
          of_mem_groups hback⟩
    · exact nomatch h
  · obtain ⟨all, hall, h⟩ := Option.bind_eq_some_iff.mp h
    split at h
    · rename_i hlength
      obtain rfl := Option.some.inj h
      exact ⟨⟨hlength, (of_pieces? hall).1⟩, of_mem_groups hall⟩
    · exact nomatch h

theorem isHexDigit_toLower (c : Char) : isHexDigit c.toLower = isHexDigit c := by
  rw [Bool.eq_iff_iff, isHexDigit_iff, isHexDigit_iff]
  rcases toLower_cases c with h | ⟨hleast, hmost, h⟩
  · rw [h]
  · omega

theorem isDigit_toLower (c : Char) : c.toLower.isDigit = c.isDigit := by
  rw [Bool.eq_iff_iff, isDigit_iff, isDigit_iff]
  rcases toLower_cases c with h | ⟨hleast, hmost, h⟩
  · rw [h]
  · omega

theorem hexDigitValue_toLower (c : Char) : hexDigitValue c.toLower = hexDigitValue c := by
  rcases toLower_cases c with h | ⟨hleast, hmost, h⟩
  · rw [h]
  · have hdigit : ¬ c.isDigit = true := by
      rw [isDigit_iff]
      omega
    have hupper : c.isUpper = true := isUpper_iff.mpr ⟨hleast, hmost⟩
    have hlower : ¬ c.toLower.isUpper = true := by
      rw [isUpper_iff]
      omega
    rw [hexDigitValue, hexDigitValue, isDigit_toLower, if_neg hdigit, if_neg hdigit, if_neg hlower,
      if_pos hupper, h]
    omega

theorem ofDigits_map_toLower (base : Nat) (cs : List Char) :
    ofDigits base (cs.map Char.toLower) = ofDigits base cs := by
  simp only [ofDigits, List.foldl_map, hexDigitValue_toLower]

theorem toLower_eq_iff (hd : d.toNat < 0x41) : c.toLower = d ↔ c = d := by
  have hself : d.toLower = d := (toLower_cases d).resolve_right fun h => by omega
  constructor
  · intro h
    exact eq_of_toLower_eq (h.trans hself.symm) (.inl hd)
  · rintro rfl
    exact hself

theorem all_map_toLower {p : Char → Bool} (hp : ∀ c, p c.toLower = p c) (cs : List Char) :
    (cs.map Char.toLower).all p = cs.all p := by
  simp only [List.all_map, Function.comp_def, hp]

theorem contains_map_toLower (hd : d.toNat < 0x41) (cs : List Char) :
    (cs.map Char.toLower).contains d = cs.contains d := by
  rw [Bool.eq_iff_iff, List.contains_iff_mem, List.contains_iff_mem, List.mem_map]
  simp only [toLower_eq_iff hd, exists_eq_right]

theorem toNat_dot_lt : '.'.toNat < 0x41 := by
  decide

theorem piece?_map_toLower (group : List Char) :
    pieces?.piece? (group.map Char.toLower) = pieces?.piece? group := by
  simp only [pieces?.piece?, List.isEmpty_map, List.length_map, all_map_toLower isHexDigit_toLower,
    ofDigits_map_toLower]

theorem embedded?_map_toLower (cs : List Char) :
    embedded? (cs.map Char.toLower) = embedded? cs := by
  have hsplit : splitAt '.' (cs.map Char.toLower) = (splitAt '.' cs).map (List.map Char.toLower) :=
    splitAt_map (fun _ => toLower_eq_iff (by decide)) cs
  have hzero : ∀ part : List Char,
      ((part.map Char.toLower).head? != some '0') = (part.head? != some '0') := by
    intro part
    cases part with
    | nil => rfl
    | cons c part =>
        rw [Bool.eq_iff_iff]
        simp [toLower_eq_iff]
  simp only [embedded?, hsplit, List.length_map, List.all_map, List.map_map, Function.comp_def,
    List.isEmpty_map, all_map_toLower isDigit_toLower, hzero, ofDigits_map_toLower]

theorem pieces?_map_toLower (groups : List (List Char)) :
    pieces? (groups.map (List.map Char.toLower)) = pieces? groups := by
  induction groups with
  | nil => rfl
  | cons group groups ih =>
      cases groups with
      | nil =>
          simp only [List.map_cons, List.map_nil, pieces?, contains_map_toLower toNat_dot_lt,
            embedded?_map_toLower, piece?_map_toLower]
      | cons next groups =>
          rw [List.map_cons, pieces?, pieces?, ih, piece?_map_toLower]
          · exact fun hnil => nomatch hnil
          · exact fun hnil => nomatch hnil

theorem groups_map_toLower (cs : List Char) :
    Host.groups (cs.map Char.toLower) = (Host.groups cs).map (List.map Char.toLower) := by
  rw [Host.groups, Host.groups, List.isEmpty_map,
    splitAt_map fun _ => toLower_eq_iff (by decide)]
  split <;> rfl

theorem splitGap?_map_toLower (cs : List Char) : splitGap? (cs.map Char.toLower) =
    (splitGap? cs).map (Prod.map (List.map Char.toLower) (List.map Char.toLower)) := by
  induction cs with
  | nil => rfl
  | cons c cs ih =>
      cases cs with
      | nil => rfl
      | cons d cs =>
          rw [List.map_cons] at ih
          have hcolons : c.toLower = ':' ∧ d.toLower = ':' ↔ c = ':' ∧ d = ':' :=
            and_congr (toLower_eq_iff (by decide)) (toLower_eq_iff (by decide))
          simp only [List.map_cons, splitGap?_cons_cons, ih, hcolons]
          split
          · rfl
          · rw [Option.map_map, Option.map_map]
            rfl

theorem ipv6?_map_toLower (cs : List Char) : ipv6? (cs.map Char.toLower) = ipv6? cs := by
  rw [ipv6?, ipv6?, splitGap?_map_toLower]
  cases splitGap? cs with
  | none => simp only [Option.map_none, groups_map_toLower, pieces?_map_toLower]
  | some gap =>
      obtain ⟨before, after⟩ := gap
      simp only [Option.map_some, Prod.map, groups_map_toLower, pieces?_map_toLower,
        contains_map_toLower toNat_dot_lt]

end Weblog.Host
