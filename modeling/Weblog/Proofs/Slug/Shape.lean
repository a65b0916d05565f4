import Mathlib.Data.List.Chain
import Mathlib.Data.List.DropRight
import Weblog.Proofs.Slug.Choice
import Weblog.Proofs.Text.Ascii

namespace Weblog

open Weblog.Text

namespace Text

theorem not_of_mem_head?_dropWhile {p : α → Bool} {l : List α} {a : α}
    (ha : a ∈ (l.dropWhile p).head?) : p a = false := by
  have hnot := List.head?_dropWhile_not p l
  rwa [Option.mem_def.mp ha] at hnot

theorem dropEndWhile_concat (p : α → Bool) (l : List α) (a : α) :
    dropEndWhile p (l ++ [a]) = if p a then dropEndWhile p l else l ++ [a] := by
  induction l with
  | nil => rfl
  | cons b rest ih =>
      rw [List.cons_append, dropEndWhile, dropEndWhile, ih]
      by_cases ha : p a = true
      · simp only [if_pos ha]
      · simp only [if_neg ha]
        cases rest <;> rfl

theorem dropEndWhile_eq_rdropWhile (p : α → Bool) (l : List α) :
    dropEndWhile p l = l.rdropWhile p := by
  induction l using List.reverseRecOn with
  | nil => rfl
  | append_singleton l a ih => rw [dropEndWhile_concat, List.rdropWhile_concat, ih]

theorem not_of_mem_getLast?_dropEndWhile {p : α → Bool} {l : List α} {a : α}
    (ha : a ∈ (dropEndWhile p l).getLast?) : p a = false := by
  induction l using List.reverseRecOn with
  | nil => simp [dropEndWhile] at ha
  | append_singleton l b ih =>
      rw [dropEndWhile_concat] at ha
      split at ha
      · exact ih ha
      · rename_i hb
        obtain rfl : b = a := by simpa using ha
        simpa using hb

end Text

namespace Slug

/-- Words of lowercase letters and digits, joined by single hyphens. -/
inductive IsWords : List Char → Prop
  | single {c : Char} (hc : isWordChar c = true) : IsWords [c]
  | cons {c : Char} {rest : List Char} (hc : isWordChar c = true) (h : IsWords rest) :
      IsWords (c :: rest)
  | hyphen {c : Char} {rest : List Char} (hc : isWordChar c = true) (h : IsWords rest) :
      IsWords (c :: '-' :: rest)

/-- Not both characters are hyphens. -/
def Apart (c d : Char) : Prop :=
  ¬ (isHyphen c = true ∧ isHyphen d = true)

theorem isHyphen_iff {c : Char} : isHyphen c = true ↔ c = '-' := by
  rw [isHyphen, beq_iff_eq]

theorem apart_of_isWordChar {c d : Char} (hd : isWordChar d = true) : Apart c d := by
  rintro ⟨-, hhyphen⟩
  rw [isHyphen_iff.mp hhyphen] at hd
  exact absurd hd (by decide)

theorem not_isHyphen_of_isWordChar {c : Char} (hc : isWordChar c = true) :
    isHyphen c = false := by
  rw [Bool.eq_false_iff]
  exact fun hhyphen => apart_of_isWordChar hc ⟨hhyphen, hhyphen⟩

theorem isWordChar_of_not_isHyphen {c : Char} (hc : isWordChar c = true ∨ c = '-')
    (hnot : isHyphen c = false) : isWordChar c = true := by
  refine hc.resolve_right fun hhyphen => ?_
  rw [isHyphen_iff.mpr hhyphen] at hnot
  exact nomatch hnot

theorem toNat_of_isWordChar {c : Char} (hc : isWordChar c = true) :
    0x61 ≤ c.toNat ∧ c.toNat ≤ 0x7A ∨ 0x30 ≤ c.toNat ∧ c.toNat ≤ 0x39 :=
  (Bool.or_eq_true_iff.mp hc).imp toNat_of_isLower toNat_of_isDigit

theorem ascii_of_isWordChar {c : Char} (hc : isWordChar c = true) : c.toNat < 0x80 := by
  have hbounds := toNat_of_isWordChar hc
  omega

theorem toLower_of_isWordChar {c : Char} (hc : isWordChar c = true) : c.toLower = c := by
  apply (toLower_cases c).resolve_right
  have hbounds := toNat_of_isWordChar hc
  omega

theorem not_isWordChar_of_isBlank {c : Char} (hc : isBlank c = true) : isWordChar c = false := by
  rw [Bool.eq_false_iff]
  intro hword
  have hbounds := toNat_of_isWordChar hword
  have hcode : c.toNat ∈ blankCodes := List.contains_iff_mem.mp hc
  simp only [blankCodes, List.mem_cons, List.not_mem_nil, or_false] at hcode
  omega

theorem word_or_separates_or_other (c : Char) :
    isWordChar c = true ∨ (isBlank c = true ∨ isHyphen c = true) ∨
      isWordChar c = false ∧ isBlank c = false ∧ isHyphen c = false := by
  cases isWordChar c <;> cases isBlank c <;> cases isHyphen c <;> simp

theorem hasDoubleHyphen_eq_false_iff {cs : List Char} :
    hasDoubleHyphen cs = false ↔ cs.IsChain Apart := by
  induction cs with
  | nil => simp [hasDoubleHyphen]
  | cons c rest ih =>
      cases rest with
      | nil => simp [hasDoubleHyphen]
      | cons d rest =>
          rw [hasDoubleHyphen, Bool.or_eq_false_iff, ih, List.isChain_cons_cons, Apart,
            ← Bool.and_eq_true, Bool.not_eq_true]

theorem IsWords.ne_nil {cs : List Char} (h : IsWords cs) : cs ≠ [] := by
  cases h <;> exact List.cons_ne_nil _ _

theorem IsWords.chars {cs : List Char} (h : IsWords cs) :
    ∀ c ∈ cs, isWordChar c = true ∨ c = '-' := by
  induction h with
  | single hc => simpa using .inl hc
  | cons hc _ ih => simpa [hc] using ih
  | hyphen hc _ ih => simpa [hc] using ih

theorem IsWords.head {cs : List Char} (h : IsWords cs) : ∀ c ∈ cs.head?, isWordChar c = true := by
  cases h <;> simpa

theorem IsWords.last {cs : List Char} (h : IsWords cs) :
    ∀ c ∈ cs.getLast?, isWordChar c = true := by
  induction h with
  | single hc => simpa using hc
  | @cons c rest hc hrest ih =>
      rwa [List.getLast?_cons_of_ne_nil hrest.ne_nil]
  | @hyphen c rest hc hrest ih =>
      rwa [List.getLast?_cons_cons, List.getLast?_cons_of_ne_nil hrest.ne_nil]

theorem IsWords.apart {cs : List Char} (h : IsWords cs) : cs.IsChain Apart := by
  induction h with
  | single => exact .singleton _
  | @cons c rest hc hrest ih =>
      rw [List.isChain_cons]
      exact ⟨fun d hd => apart_of_isWordChar (hrest.head d hd), ih⟩
  | @hyphen c rest hc hrest ih =>
      rw [List.isChain_cons_cons, List.isChain_cons]
      refine ⟨fun hboth => ?_, fun d hd => apart_of_isWordChar (hrest.head d hd), ih⟩
      exact absurd hboth.1 (by rw [not_isHyphen_of_isWordChar hc]; decide)

theorem isWords_of {cs : List Char} (hne : cs ≠ [])
    (hchars : ∀ c ∈ cs, isWordChar c = true ∨ c = '-')
    (hhead : ∀ c ∈ cs.head?, isHyphen c = false) (hlast : ∀ c ∈ cs.getLast?, isHyphen c = false)
    (hapart : cs.IsChain Apart) : IsWords cs := by
  match cs, hne with
  | [c], _ => exact .single (isWordChar_of_not_isHyphen (hchars c (by simp)) (hhead c rfl))
  | c :: d :: rest, _ =>
      have hc : isWordChar c = true :=
        isWordChar_of_not_isHyphen (hchars c (by simp)) (hhead c rfl)
      have hchars' : ∀ e ∈ d :: rest, isWordChar e = true ∨ e = '-' :=
        fun e he => hchars e (List.mem_cons_of_mem _ he)
      rw [List.getLast?_cons_cons] at hlast
      rw [List.isChain_cons_cons] at hapart
      rcases hchars d (by simp) with hd | rfl
      · refine .cons hc (isWords_of (List.cons_ne_nil _ _) hchars' ?_ hlast hapart.2)
        rintro e ⟨⟩
        exact not_isHyphen_of_isWordChar hd
      · have hrest : rest ≠ [] := by
          rintro rfl
          exact absurd (hlast '-' rfl) (by decide)
        rw [List.getLast?_cons_of_ne_nil hrest] at hlast
        rw [List.isChain_cons] at hapart
        refine .hyphen hc (isWords_of hrest (fun e he => hchars' e (List.mem_cons_of_mem _ he)) ?_
          hlast hapart.2.2)
        intro e he
        rw [Bool.eq_false_iff]
        exact fun hhyphen => hapart.2.1 e he ⟨rfl, hhyphen⟩

theorem isValid_iff {slug : String} :
    isValid slug = true ↔ IsWords slug.toList ∧ slug.length ≤ maxLength := by
  rw [← String.length_toList]
  simp only [isValid, Bool.and_eq_true, Bool.not_eq_true', List.isEmpty_eq_false_iff,
    decide_eq_true_eq, List.all_eq_true, Bool.or_eq_true, isHyphen_iff, Option.any_eq_false,
    hasDoubleHyphen_eq_false_iff]
  constructor
  · rintro ⟨⟨⟨⟨⟨hne, hlength⟩, hchars⟩, hhead⟩, hlast⟩, hapart⟩
    exact ⟨isWords_of hne hchars (by simpa using hhead) (by simpa using hlast) hapart, hlength⟩
  · rintro ⟨hwords, hlength⟩
    refine ⟨⟨⟨⟨⟨hwords.ne_nil, hlength⟩, hwords.chars⟩, ?_⟩, ?_⟩, hwords.apart⟩
    · exact fun c hc => by simp [not_isHyphen_of_isWordChar (hwords.head c hc)]
    · exact fun c hc => by simp [not_isHyphen_of_isWordChar (hwords.last c hc)]

section

variable {c : Char} {joined : Bool} (rest : List Char)

theorem squeeze_cons_of_isWordChar (hc : isWordChar c = true) :
    squeeze joined (c :: rest) = c :: squeeze false rest := by
  rw [squeeze, if_pos hc]

theorem squeeze_cons_of_separates (hc : isBlank c = true ∨ isHyphen c = true) :
    squeeze joined (c :: rest) =
      if joined then squeeze true rest else '-' :: squeeze true rest := by
  have hword : isWordChar c = false := by
    rcases hc with hc | hc
    · exact not_isWordChar_of_isBlank hc
    · rw [isHyphen_iff.mp hc]
      rfl
  cases joined <;> simp [squeeze, hword, hc]

theorem squeeze_cons_of_other (hword : isWordChar c = false) (hblank : isBlank c = false)
    (hhyphen : isHyphen c = false) : squeeze joined (c :: rest) = squeeze joined rest := by
  simp [squeeze, hword, hblank, hhyphen]

end

theorem squeeze_apart (joined : Bool) (cs : List Char) :
    (squeeze joined cs).IsChain Apart ∧
      (joined = true → ∀ c ∈ (squeeze joined cs).head?, isHyphen c = false) := by
  induction cs generalizing joined with
  | nil => simp [squeeze]
  | cons c rest ih =>
      rw [squeeze]
      split
      · rename_i hc
        have hhyphen := not_isHyphen_of_isWordChar hc
        refine ⟨?_, fun _ d hd => ?_⟩
        · rw [List.isChain_cons]
          exact ⟨fun d _ hboth => absurd hboth.1 (by rw [hhyphen]; decide), (ih false).1⟩
        · obtain rfl : c = d := by simpa using hd
          exact hhyphen
      · split
        · rename_i hjoined
          refine ⟨?_, fun h => absurd hjoined (by simp [h])⟩
          rw [List.isChain_cons]
          exact ⟨fun d hd hboth => absurd hboth.2 (by rw [(ih true).2 rfl d hd]; decide),
            (ih true).1⟩
        · exact ih joined

theorem ofLower_isPrefix (cs : List Char) :
    ofLower cs <+: (squeeze true cs).dropWhile isHyphen := by
  refine (dropEndWhile_isPrefix isHyphen _).trans ((List.take_prefix maxLength _).trans ?_)
  exact dropEndWhile_isPrefix isHyphen _

theorem length_ofTitle_le (title : String) : (ofTitle title).length ≤ maxLength := by
  rw [← String.length_toList, ofTitle, String.toList_ofList, ofLower]
  exact (dropEndWhile_isPrefix isHyphen _).length_le.trans (List.length_take_le _ _)

theorem isWords_ofTitle {title : String} (h : ofTitle title ≠ "") :
    IsWords (ofTitle title).toList := by
  have hne : (ofTitle title).toList ≠ [] := by simpa using h
  have hprefix := ofLower_isPrefix (lower title.toList)
  refine isWords_of hne (fun c => mem_ofTitle) ?_ ?_ ?_ <;>
    rw [ofTitle, String.toList_ofList]
  · intro c hc
    obtain ⟨kept, hkept⟩ := List.head?_eq_some_iff.mp hc
    rw [hkept] at hprefix
    obtain ⟨rest, hrest⟩ := hprefix
    refine not_of_mem_head?_dropWhile (l := squeeze true (lower title.toList)) ?_
    rw [← hrest]
    rfl
  · exact fun c => not_of_mem_getLast?_dropEndWhile
  · obtain ⟨rest, hrest⟩ := hprefix
    obtain ⟨front, hfront⟩ :=
      List.dropWhile_suffix (l := squeeze true (lower title.toList)) isHyphen
    have hapart := (squeeze_apart true (lower title.toList)).1
    rw [← hfront, ← hrest] at hapart
    exact hapart.right_of_append.left_of_append

theorem isValid_ofTitle {title : String} (h : ofTitle title ≠ "") :
    isValid (ofTitle title) = true :=
  isValid_iff.mpr ⟨isWords_ofTitle h, length_ofTitle_le title⟩

theorem IsWords.append {cs ds : List Char} (hcs : IsWords cs) (hds : IsWords ds) :
    IsWords (cs ++ '-' :: ds) := by
  induction hcs with
  | single hc => exact .hyphen hc hds
  | cons hc _ ih => exact .cons hc ih
  | hyphen hc _ ih => exact .hyphen hc ih

theorem isWords_of_all {cs : List Char} (hne : cs ≠ [])
    (hall : ∀ c ∈ cs, isWordChar c = true) : IsWords cs := by
  induction cs with
  | nil => exact absurd rfl hne
  | cons c rest ih =>
      cases rest with
      | nil => exact .single (hall c (by simp))
      | cons d rest =>
          refine .cons (hall c (by simp)) (ih (List.cons_ne_nil _ _) ?_)
          exact fun e he => hall e (List.mem_cons_of_mem _ he)

theorem isWords_repr (n : Nat) : IsWords n.repr.toList := by
  rw [Nat.toList_repr]
  refine isWords_of_all Nat.toDigits_ne_nil fun c hc => ?_
  rw [isWordChar, Nat.isDigit_of_mem_toDigits (by decide) (by decide) hc, Bool.or_true]

theorem toList_withSuffix (base : String) (n : Nat) :
    (withSuffix base n).toList = base.toList ++ '-' :: n.repr.toList := by
  simp [withSuffix]

theorem length_withSuffix (base : String) (n : Nat) :
    (withSuffix base n).length = base.length + 1 + n.repr.length := by
  rw [withSuffix, String.length_append, String.length_append]
  rfl

theorem isWords_withSuffix {base : String} (h : IsWords base.toList) (n : Nat) :
    IsWords (withSuffix base n).toList := by
  rw [toList_withSuffix]
  exact h.append (isWords_repr n)

theorem isValid_withSuffix_iff {base : String} (h : IsWords base.toList) (n : Nat) :
    isValid (withSuffix base n) = true ↔ base.length + 1 + n.repr.length ≤ maxLength := by
  rw [isValid_iff, length_withSuffix]
  exact and_iff_right (isWords_withSuffix h n)

end Slug

end Weblog
