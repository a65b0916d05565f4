import Mathlib.Data.List.Forall2
import Weblog.Text.Split

namespace Weblog.Text

variable {α : Type} [DecidableEq α] {a : α} {l before after : List α}

theorem splitAt_of_notMem (h : a ∉ l) : splitAt a l = [l] := by
  induction l with
  | nil => rfl
  | cons b l ih =>
      obtain ⟨hb, hl⟩ : a ≠ b ∧ a ∉ l := by simpa using h
      rw [splitAt, if_neg (Ne.symm hb), ih hl]

theorem splitAt_append (h : a ∉ before) (after : List α) :
    splitAt a (before ++ a :: after) = before :: splitAt a after := by
  induction before with
  | nil => exact if_pos rfl
  | cons b before ih =>
      obtain ⟨hb, hbefore⟩ : a ≠ b ∧ a ∉ before := by simpa using h
      rw [List.cons_append, splitAt, if_neg (Ne.symm hb), ih hbefore]

theorem splitAt_intercalate {parts : List (List α)} (hne : parts ≠ [])
    (h : ∀ part ∈ parts, a ∉ part) : splitAt a ([a].intercalate parts) = parts := by
  induction parts with
  | nil => exact absurd rfl hne
  | cons part parts ih =>
      obtain ⟨hpart, hparts⟩ := List.forall_mem_cons.mp h
      cases parts with
      | nil => simpa using splitAt_of_notMem hpart
      | cons next parts =>
          rw [List.intercalate_cons_cons, List.append_assoc, List.singleton_append,
            splitAt_append hpart, ih (List.cons_ne_nil _ _) hparts]

omit [DecidableEq α] in
theorem mem_intercalate {parts : List (List α)} {b : α} (h : b ∈ [a].intercalate parts) :
    b = a ∨ ∃ part ∈ parts, b ∈ part := by
  induction parts with
  | nil => simp at h
  | cons part parts ih =>
      cases parts with
      | nil => exact .inr ⟨part, List.mem_cons_self, by simpa using h⟩
      | cons next parts =>
          rw [List.intercalate_cons_cons] at h
          rcases List.mem_append.mp h with h | h
          · rcases List.mem_append.mp h with h | h
            · exact .inr ⟨part, List.mem_cons_self, h⟩
            · exact .inl (List.mem_singleton.mp h)
          · obtain heq | ⟨part', hmem, hb⟩ := ih h
            · exact .inl heq
            · exact .inr ⟨part', List.mem_cons_of_mem _ hmem, hb⟩

theorem splitAt_ne_nil (a : α) (l : List α) : splitAt a l ≠ [] := by
  cases l with
  | nil => exact List.cons_ne_nil _ _
  | cons b l =>
      rw [splitAt]
      split
      · exact List.cons_ne_nil _ _
      · split <;> exact List.cons_ne_nil _ _

theorem intercalate_splitAt (a : α) (l : List α) : [a].intercalate (splitAt a l) = l := by
  induction l with
  | nil => rfl
  | cons b l ih =>
      obtain ⟨part, parts, hsplit⟩ := List.exists_cons_of_ne_nil (splitAt_ne_nil a l)
      rw [hsplit] at ih
      rw [splitAt, hsplit]
      split
      · rename_i hb
        rw [List.intercalate_cons_cons, ih, hb]
        rfl
      · cases parts with
        | nil => simpa using ih
        | cons next parts =>
            rw [List.intercalate_cons_cons] at ih ⊢
            rw [List.cons_append, List.cons_append, ih]

theorem mem_splitAt {b : α} (hb : b ∈ l) : b = a ∨ ∃ part ∈ splitAt a l, b ∈ part :=
  mem_intercalate (by rwa [intercalate_splitAt])

theorem splitAt_map {f : α → α} (hf : ∀ b, f b = a ↔ b = a) (l : List α) :
    splitAt a (l.map f) = (splitAt a l).map (List.map f) := by
  induction l with
  | nil => rfl
  | cons b l ih =>
      simp only [List.map_cons, splitAt, hf, ih]
      split
      · rfl
      · cases splitAt a l <;> rfl

theorem mapM_eq_some_iff {β γ : Type} {f : β → Option γ} {l : List β} {l' : List γ} :
    l.mapM f = some l' ↔ List.Forall₂ (fun b c => f b = some c) l l' := by
  induction l generalizing l' with
  | nil => simp [eq_comm]
  | cons b l ih =>
      rw [List.mapM_cons, List.forall₂_cons_left_iff]
      constructor
      · intro h
        obtain ⟨c, hc, h⟩ := Option.bind_eq_some_iff.mp h
        obtain ⟨cs, hcs, h⟩ := Option.bind_eq_some_iff.mp h
        exact ⟨c, cs, hc, ih.mp hcs, (Option.some.inj h).symm⟩
      · rintro ⟨c, cs, hc, hcs, rfl⟩
        rw [hc, ih.mpr hcs]
        rfl

theorem exists_of_mem_mapM {β γ : Type} {f : β → Option γ} {l : List β} {l' : List γ} {c : γ}
    (h : l.mapM f = some l') (hc : c ∈ l') : ∃ b ∈ l, f b = some c := by
  rw [mapM_eq_some_iff] at h
  induction h with
  | nil => exact nomatch hc
  | cons hb _ ih =>
      rcases List.mem_cons.mp hc with rfl | hc
      · exact ⟨_, List.mem_cons_self, hb⟩
      · obtain ⟨b, hmem, hb⟩ := ih hc
        exact ⟨b, List.mem_cons_of_mem _ hmem, hb⟩

theorem splitFirst?_eq_none (h : a ∉ l) : splitFirst? a l = none := by
  induction l with
  | nil => rfl
  | cons b l ih =>
      obtain ⟨hb, hl⟩ : a ≠ b ∧ a ∉ l := by simpa using h
      rw [splitFirst?, if_neg (Ne.symm hb), ih hl]
      rfl

theorem splitLast?_eq_none (h : a ∉ l) : splitLast? a l = none := by
  rw [splitLast?, splitFirst?_eq_none (fun hmem => h (List.mem_reverse.mp hmem))]
  rfl

theorem splitFirst?_append (hbefore : a ∉ before) (after : List α) :
    splitFirst? a (before ++ a :: after) = some (before, after) := by
  induction before with
  | nil => exact if_pos rfl
  | cons b before ih =>
      obtain ⟨hb, hbefore⟩ : a ≠ b ∧ a ∉ before := by simpa using hbefore
      rw [List.cons_append, splitFirst?, if_neg (Ne.symm hb), ih hbefore]
      rfl

theorem splitLast?_append (hafter : a ∉ after) (before : List α) :
    splitLast? a (before ++ a :: after) = some (before, after) := by
  have hreverse : (before ++ a :: after).reverse = after.reverse ++ a :: before.reverse := by
    rw [List.reverse_append, List.reverse_cons, List.append_assoc, List.singleton_append]
  rw [splitLast?, hreverse, splitFirst?_append (fun h => hafter (List.mem_reverse.mp h))]
  simp only [Option.map_some, List.reverse_reverse]

theorem splitLast?_eq_none_iff : splitLast? a l = none ↔ a ∉ l := by
  constructor
  · intro h hmem
    obtain ⟨back, front, hl, hback⟩ :=
      List.eq_append_cons_of_mem (List.mem_reverse.mpr hmem)
    rw [splitLast?, hl, splitFirst?_append hback] at h
    exact nomatch h
  · exact splitLast?_eq_none

theorem splitFirst?_eq_some_iff :
    splitFirst? a l = some (before, after) ↔ l = before ++ a :: after ∧ a ∉ before := by
  constructor
  · intro h
    induction l generalizing before with
    | nil => exact nomatch h
    | cons b l ih =>
        rw [splitFirst?] at h
        split at h
        · rename_i hb
          obtain ⟨rfl, rfl⟩ := Prod.mk.inj (Option.some.inj h)
          exact ⟨by rw [hb, List.nil_append], List.not_mem_nil⟩
        · rename_i hb
          obtain ⟨⟨front, back⟩, hsplit, heq⟩ := Option.map_eq_some_iff.mp h
          obtain ⟨rfl, rfl⟩ := Prod.mk.inj heq
          obtain ⟨rfl, hfront⟩ := ih hsplit
          exact ⟨rfl, List.not_mem_cons_of_ne_of_not_mem (Ne.symm hb) hfront⟩
  · rintro ⟨rfl, hbefore⟩
    exact splitFirst?_append hbefore after

theorem splitLast?_eq_some_iff :
    splitLast? a l = some (before, after) ↔ l = before ++ a :: after ∧ a ∉ after := by
  constructor
  · intro h
    obtain ⟨⟨back, front⟩, hsplit, heq⟩ := Option.map_eq_some_iff.mp h
    obtain ⟨rfl, rfl⟩ := Prod.mk.inj heq
    obtain ⟨hl, hback⟩ := splitFirst?_eq_some_iff.mp hsplit
    refine ⟨?_, fun hmem => hback (List.mem_reverse.mp hmem)⟩
    rw [← List.reverse_reverse l, hl]
    simp
  · rintro ⟨rfl, hafter⟩
    exact splitLast?_append hafter before

end Weblog.Text
