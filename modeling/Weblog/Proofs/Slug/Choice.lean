import Weblog.Slug
import Weblog.Store.Statement

namespace Weblog

open Weblog.Text

namespace Text

theorem dropEndWhile_isPrefix (p : α → Bool) (l : List α) : dropEndWhile p l <+: l := by
  induction l with
  | nil => exact List.prefix_refl _
  | cons a rest ih =>
      rw [dropEndWhile]
      split
      · split
        · exact List.nil_prefix
        · exact List.prefix_append [a] rest
      · rename_i kept hkept
        rw [List.cons_prefix_cons]
        exact ⟨rfl, ih⟩

/-- A character that stands for itself alone in a search pattern, up to its case. -/
def IsLiteral (c : Char) : Prop :=
  c ≠ '%' ∧ c ≠ '_' ∧ c ≠ '\x00'

theorem untilNul_append {cs : List Char} (hcs : ∀ c ∈ cs, IsLiteral c) (rest : List Char) :
    untilNul (cs ++ rest) = cs ++ untilNul rest := by
  rw [untilNul, List.takeWhile_append_of_pos]
  · rfl
  · intro c hc
    simpa using (hcs c hc).2.2

theorem likeItem_of_isLiteral {c : Char} (hc : IsLiteral c) :
    likeItem c = .one fun d => d.toLower == c.toLower := by
  rw [likeItem, if_neg hc.1, if_neg hc.2.1]

theorem manyThen_true (p : Char → Bool) (hp : ∀ c, p c = true) (cs : List Char) :
    manyThen p (Pattern.fits []) cs = true := by
  rw [manyThen_iff]
  exact ⟨cs, [], (List.append_nil cs).symm, fun c _ => hp c, rfl⟩

theorem fits_literals {cs : List Char} (hcs : ∀ c ∈ cs, IsLiteral c) (rest : List Char) :
    Pattern.fits ((cs ++ ['%']).map likeItem) (cs ++ rest) = true := by
  induction cs with
  | nil => exact manyThen_true _ (fun _ => rfl) rest
  | cons c cs ih =>
      rw [List.cons_append, List.map_cons, likeItem_of_isLiteral (hcs c (by simp)),
        List.cons_append, Pattern.fits]
      simpa using ih fun d hd => hcs d (by simp [hd])

theorem startsLike_append {base : String} (hbase : ∀ c ∈ base.toList, IsLiteral c)
    (rest : String) : startsLike base (base ++ rest) = true := by
  rw [startsLike, String.toList_append, untilNul_append hbase, untilNul_append hbase]
  exact fits_literals hbase _

end Text

namespace Slug

theorem mem_squeeze {joined : Bool} {cs : List Char} {c : Char} (hc : c ∈ squeeze joined cs) :
    isWordChar c = true ∨ c = '-' := by
  induction cs generalizing joined with
  | nil => simp [squeeze] at hc
  | cons d rest ih =>
      rw [squeeze] at hc
      split at hc
      · rename_i hword
        rcases List.mem_cons.mp hc with rfl | hc
        · exact .inl hword
        · exact ih hc
      · split at hc
        · rcases List.mem_cons.mp hc with rfl | hc
          · exact .inr rfl
          · exact ih hc
        · exact ih hc

theorem mem_ofTitle {title : String} {c : Char} (hc : c ∈ (ofTitle title).toList) :
    isWordChar c = true ∨ c = '-' := by
  rw [ofTitle, String.toList_ofList, ofLower] at hc
  have htake := (dropEndWhile_isPrefix isHyphen _).subset hc
  have htrim := List.mem_of_mem_take htake
  rw [trimHyphens] at htrim
  have hdrop := (dropEndWhile_isPrefix isHyphen _).subset htrim
  exact mem_squeeze ((List.dropWhile_sublist isHyphen).subset hdrop)

theorem isLiteral_of_mem_ofTitle {title : String} {c : Char}
    (hc : c ∈ (ofTitle title).toList) : IsLiteral c := by
  rcases mem_ofTitle hc with hword | rfl
  · refine ⟨?_, ?_, ?_⟩ <;> rintro rfl <;> exact absurd hword (by decide)
  · exact ⟨by decide, by decide, by decide⟩

/-- The slugs that are tried for a title with the slug `base`, in their order. -/
def candidates (base : String) (now : Nat) : List String :=
  base :: (List.range' 1 maxSuffix).map (withSuffix base) ++ [withSuffix base now]

/-- The first candidate that nobody holds. -/
def choice? (base : String) (now : Nat) (held : List String) : Option String :=
  (candidates base now).find? fun slug => !held.contains slug

theorem firstFree_eq_choice? {base : String} (hbase : base ≠ "") (taken : List String)
    (now : Nat) :
    firstFree base taken now = (choice? base now taken).getD (withSuffix base now) := by
  rw [firstFree, if_neg (by simpa using hbase), choice?, candidates, List.cons_append]
  cases hheld : taken.contains base with
  | false =>
      rw [List.find?_cons_of_pos (by rw [hheld]; rfl)]
      simp
  | true =>
      rw [List.find?_cons_of_neg (by rw [hheld]; decide), List.find?_append, List.find?_map]
      simp only [Function.comp_def, Bool.not_true, Bool.false_eq_true, if_false]
      cases (List.range' 1 maxSuffix).find? fun n => !taken.contains (withSuffix base n) with
      | some n => rfl
      | none =>
          rw [Option.map_none, Option.none_or, List.find?_singleton]
          cases taken.contains (withSuffix base now) <;> rfl

theorem mem_candidates_iff {base slug : String} {now : Nat} :
    slug ∈ candidates base now ↔
      slug = base ∨ ∃ n, slug = withSuffix base n ∧ (1 ≤ n ∧ n ≤ maxSuffix ∨ n = now) := by
  simp only [candidates, List.cons_append, List.mem_cons, List.mem_append, List.mem_map,
    List.mem_range'_1, List.not_mem_nil, or_false]
  refine or_congr_right ⟨?_, ?_⟩
  · rintro (⟨n, hn, rfl⟩ | rfl)
    · exact ⟨n, rfl, .inl ⟨hn.1, by omega⟩⟩
    · exact ⟨now, rfl, .inr rfl⟩
  · rintro ⟨n, rfl, hn | rfl⟩
    · exact .inl ⟨n, ⟨hn.1, by omega⟩, rfl⟩
    · exact .inr rfl

theorem choice?_congr {base : String} {now : Nat} {held held' : List String}
    (h : ∀ slug ∈ candidates base now, slug ∈ held ↔ slug ∈ held') :
    choice? base now held = choice? base now held' := by
  rw [choice?, choice?, ← List.head?_filter, ← List.head?_filter]
  congr 1
  apply List.filter_congr
  intro slug hslug
  rw [Bool.eq_iff_iff]
  simpa using not_congr (h slug hslug)

theorem choice?_eq_some_iff {base slug : String} {now : Nat} {held : List String} :
    choice? base now held = some slug ↔
      slug ∉ held ∧ ∃ tried rest, candidates base now = tried ++ slug :: rest ∧
        ∀ c ∈ tried, c ∈ held := by
  rw [choice?, List.find?_eq_some_iff_append]
  simp

theorem mem_candidates_of_choice? {base slug : String} {now : Nat} {held : List String}
    (h : choice? base now held = some slug) : slug ∈ candidates base now :=
  List.mem_of_find?_eq_some h

theorem choice?_eq_none_iff {base : String} {now : Nat} {held : List String} :
    choice? base now held = none ↔ ∀ slug ∈ candidates base now, slug ∈ held := by
  simp [choice?]

theorem withSuffix_mem_of_choice?_eq_none {base : String} {now : Nat} {held : List String}
    (h : choice? base now held = none) : withSuffix base now ∈ held :=
  choice?_eq_none_iff.mp h _ (by simp [candidates])

theorem firstFree_mem_candidates {base : String} (hbase : base ≠ "") (taken : List String)
    (now : Nat) : firstFree base taken now ∈ candidates base now := by
  rw [firstFree_eq_choice? hbase]
  cases hchoice : choice? base now taken with
  | none => exact mem_candidates_iff.mpr (.inr ⟨now, rfl, .inr rfl⟩)
  | some slug => exact mem_candidates_of_choice? hchoice

theorem startsLike_of_mem_candidates {title slug : String} {now : Nat}
    (h : slug ∈ candidates (ofTitle title) now) : startsLike (ofTitle title) slug = true := by
  have hbase : ∀ c ∈ (ofTitle title).toList, IsLiteral c := fun _ => isLiteral_of_mem_ofTitle
  rcases mem_candidates_iff.mp h with rfl | ⟨n, rfl, -⟩
  · simpa using startsLike_append hbase ""
  · rw [withSuffix, String.append_assoc]
    exact startsLike_append hbase _

end Slug

namespace Store

/-- The slugs of all articles but the one with the number `except`. -/
def slugsBut (s : Store) (except : Option Int) : List String :=
  (s.articles.filter fun a => except != some a.id).map (·.slug)

theorem mem_slugsBut {s : Store} {except : Option Int} {slug : String} :
    slug ∈ s.slugsBut except ↔ ∃ a ∈ s.articles, except ≠ some a.id ∧ a.slug = slug := by
  simp [slugsBut, and_assoc]

theorem mem_slugsBut_some {s : Store} {id : Int} {slug : String} :
    slug ∈ s.slugsBut (some id) ↔ ∃ a ∈ s.articles, a.id ≠ id ∧ a.slug = slug := by
  simp only [mem_slugsBut, ne_eq, Option.some.injEq, eq_comm]

theorem mem_slugsLike {s : Store} {base slug : String} {except : Option Int} :
    slug ∈ s.slugsLike base except ↔ startsLike base slug = true ∧ slug ∈ s.slugsBut except := by
  rw [mem_slugsBut, slugsLike, List.mem_mergeSort, List.mem_map]
  simp only [List.mem_filter, Bool.and_eq_true, bne_iff_ne]
  constructor
  · rintro ⟨a, ⟨ha, hlike, hne⟩, rfl⟩
    exact ⟨hlike, a, ha, hne, rfl⟩
  · rintro ⟨hlike, a, ha, hne, rfl⟩
    exact ⟨a, ⟨ha, hlike, hne⟩, rfl⟩

/-- The slugs that begin like that of the title tell as much about its candidates as all slugs. -/
theorem choice?_slugsLike (s : Store) (title : String) (except : Option Int) (now : Nat) :
    Slug.choice? (Slug.ofTitle title) now (s.slugsLike (Slug.ofTitle title) except) =
      Slug.choice? (Slug.ofTitle title) now (s.slugsBut except) := by
  apply Slug.choice?_congr
  intro slug hslug
  rw [mem_slugsLike]
  exact and_iff_right (Slug.startsLike_of_mem_candidates hslug)

theorem firstFree_slugsLike (s : Store) {title : String} (htitle : Slug.ofTitle title ≠ "")
    (except : Option Int) (now : Nat) :
    Slug.firstFree (Slug.ofTitle title) (s.slugsLike (Slug.ofTitle title) except) now =
      Slug.firstFree (Slug.ofTitle title) (s.slugsBut except) now := by
  rw [Slug.firstFree_eq_choice? htitle, Slug.firstFree_eq_choice? htitle, choice?_slugsLike]

end Store

end Weblog
