import Mathlib.Data.List.Forall2
import Mathlib.Data.Option.Basic
import Weblog.Json.Record
import Weblog.Proofs.Json.Scan
import Weblog.Text.Split

/-!
Values that have been written, read again one level at a time. An item is given by the bytes from
its beginning to the end of the input, so the statements are about bytes that begin with a value.
-/

namespace Weblog.Json

open Utf8 (bytes)
open Weblog.Text (ascii_of_isDigit)

/-- The value stands at the front, and what follows may follow a value. -/
def Begins (v : Value) (bs : Bytes) : Prop :=
  ∃ rest, Delimited rest ∧ bs = bytes v.chars ++ rest

theorem begins_chars (v : Value) : Begins v (bytes v.chars) :=
  ⟨[], delimited_nil, (List.append_nil _).symm⟩

variable {bs rest : Bytes}

theorem skipSpace_cons {b : UInt8} (hb : isSpace b = false) (rest : Bytes) :
    skipSpace (b :: rest) = b :: rest := by
  rw [skipSpace, List.dropWhile_cons_of_neg (by rw [hb]; exact Bool.false_ne_true)]

theorem skipSpace_chars (v : Value) (rest : Bytes) :
    skipSpace (bytes v.chars ++ rest) = bytes v.chars ++ rest := by
  obtain ⟨b, bs, hbytes, hspace, -⟩ := exists_bytes_chars_eq_cons v
  rw [hbytes, List.cons_append, skipSpace_cons hspace]

theorem document?_chars {α : Type} (read : Bytes → Option α) (v : Value) :
    document? read (bytes v.chars) = read (bytes v.chars) := by
  have hskip : skip (bytes v.chars) = some [] := by
    rw [← List.append_nil (bytes v.chars), skip_value v delimited_nil]
  rw [document?, isDocument, hskip]
  rfl

theorem string?_quoted (s : String) (rest : Bytes) :
    string? (bytes (quoted s) ++ rest) = some s := by
  have hspace : isSpace (byte '"') = false := rfl
  rw [bytes_quoted, List.cons_append, List.append_assoc, List.singleton_append, string?,
    skipSpace_cons hspace]
  simp only [if_true, text?_written, Option.map_some]

theorem string?_of_begins {s : String} (h : Begins (.string s) bs) : string? bs = some s := by
  obtain ⟨rest, -, rfl⟩ := h
  exact string?_quoted s rest

theorem bool?_of_begins {b : Bool} (h : Begins (.bool b) bs) : bool? bs = some b := by
  obtain ⟨rest, -, rfl⟩ := h
  rw [bool?, skipSpace_chars]
  cases b <;> rfl

theorem isDigit_of_delimited (hrest : Delimited rest) : ∀ b ∈ rest.head?, isDigit b = false := by
  intro b hb
  rcases hrest b hb with rfl | rfl | rfl <;> rfl

/-- The digits of a number, as numbers. -/
def digitsOf (n : Nat) : List Nat :=
  (Nat.toDigits 10 n).map fun c => digitValue (byte c)

theorem ofDigits_map_digitValue {cs : List Char} (hcs : ∀ c ∈ cs, c.isDigit = true) (n : Nat) :
    (cs.map fun c => digitValue (byte c)).foldl (fun n d => n * 10 + d) n =
      Nat.ofDigitChars 10 cs n := by
  induction cs generalizing n with
  | nil => rfl
  | cons c cs ih =>
      obtain ⟨hc, hcs⟩ := List.forall_mem_cons.mp hcs
      have hvalue : digitValue (byte c) = c.toNat - '0'.toNat := by
        rw [digitValue, Utf8.toNat_byte (ascii_of_isDigit hc)]
        rfl
      rw [List.map_cons, List.foldl_cons, ih hcs, Nat.ofDigitChars_cons, hvalue, Nat.mul_comm]

theorem ofDigits_digitsOf (n : Nat) : ofDigits (digitsOf n) = n := by
  have hdigits : ∀ c ∈ Nat.toDigits 10 n, c.isDigit = true := fun c hc =>
    Nat.isDigit_of_mem_toDigits (by decide) (by decide) hc
  rw [ofDigits, digitsOf, ofDigits_map_digitValue hdigits, Nat.ofDigitChars_ten_toDigits]

theorem digits_toDigits (n : Nat) (hrest : Delimited rest) :
    digits (bytes (Nat.toDigits 10 n) ++ rest) = (digitsOf n, rest) := by
  have hdigits : ∀ c ∈ Nat.toDigits 10 n, c.isDigit = true := fun c hc =>
    Nat.isDigit_of_mem_toDigits (by decide) (by decide) hc
  rw [Utf8.bytes_ascii fun c hc => ascii_of_isDigit (hdigits c hc)]
  have hbytes : ∀ b ∈ (Nat.toDigits 10 n).map byte, isDigit b = true :=
    List.forall_mem_map.mpr fun c hc => isDigit_byte (hdigits c hc)
  obtain ⟨htake, hdrop⟩ := Text.takeWhile_append hbytes (isDigit_of_delimited hrest)
  rw [digits, htake, hdrop, List.map_map]
  rfl

theorem numeral?_of_digits {n : Nat} {negative : Bool} (hrest : Delimited rest)
    (hspace : skipSpace bs = bs) (hsign : (bs.head? == some (byte '-')) = negative)
    (hbytes : (if negative then bs.tail else bs) = bytes (Nat.toDigits 10 n) ++ rest) :
    numeral? bs = some ⟨negative, digitsOf n, none, none⟩ := by
  have hempty : (digitsOf n).isEmpty = false := by
    rw [List.isEmpty_eq_false_iff, digitsOf]
    exact fun h => Nat.toDigits_ne_nil (List.map_eq_nil_iff.mp h)
  rw [numeral?]
  simp only [hspace, hsign, hbytes, digits_toDigits n hrest, hempty, Bool.false_eq_true, if_false]
  cases rest with
  | nil => rfl
  | cons b rest => rcases hrest b rfl with rfl | rfl | rfl <;> rfl

theorem numeral?_of_begins {n : Int} (h : Begins (.int n) bs) :
    numeral? bs = some ⟨decide (n < 0), digitsOf n.natAbs, none, none⟩ := by
  obtain ⟨rest, hrest, rfl⟩ := h
  have hspace := skipSpace_chars (.int n) rest
  by_cases hneg : n < 0
  · have hbytes : bytes (Value.int n).chars =
        byte '-' :: bytes (Nat.toDigits 10 n.natAbs) := by
      rw [Value.chars, decimal, if_pos hneg, Utf8.bytes_cons_ascii (by decide)]
    rw [hbytes] at hspace ⊢
    rw [decide_eq_true hneg]
    exact numeral?_of_digits hrest hspace rfl rfl
  · have hbytes : bytes (Value.int n).chars = bytes (Nat.toDigits 10 n.natAbs) := by
      rw [Value.chars, decimal, if_neg hneg]
    have hsign : ((bytes (Value.int n).chars ++ rest).head? == some (byte '-')) = false := by
      obtain ⟨d, ds, hdigits⟩ :=
        List.exists_cons_of_ne_nil (Nat.toDigits_ne_nil (n := n.natAbs) (b := 10))
      have hd : d.isDigit = true :=
        Nat.isDigit_of_mem_toDigits (by decide) (by decide) (hdigits ▸ List.mem_cons_self)
      rw [hbytes, hdigits, Utf8.bytes_cons_ascii (ascii_of_isDigit hd), List.cons_append,
        List.head?_cons]
      refine beq_eq_false_iff_ne.mpr fun heq => ?_
      have hdigit := isDigit_byte hd
      rw [Option.some.inj heq] at hdigit
      exact absurd hdigit (by decide)
    rw [decide_eq_false hneg]
    exact numeral?_of_digits hrest hspace hsign (congrArg (· ++ rest) hbytes)

theorem int?_of_begins {n : Int} (h : Begins (.int n) bs) (hn : fitsSigned n = true) :
    int? bs = some n := by
  have hinteger : Numeral.integer? ⟨decide (n < 0), digitsOf n.natAbs, none, none⟩ = some n := by
    simp only [Numeral.integer?, Option.isNone_none, and_self, if_true, ofDigits_digitsOf]
    by_cases hneg : n < 0
    · simp only [hneg, decide_true, if_true]
      rw [if_neg (by omega), Int.ofNat_eq_natCast]
      exact congrArg some (by omega)
    · simp only [hneg, decide_false, Bool.false_eq_true, if_false]
      exact congrArg some (by omega)
  rw [int?, numeral?_of_begins h]
  simp only [Option.bind_eq_bind, Option.bind_some, hinteger, hn, if_true]

theorem date?_of_begins {n : Int} (h : Begins (.int n) bs) (hn : 0 ≤ n)
    (hmax : n.natAbs < Nat.pow 2 64) : (numeral? bs).bind Numeral.date? = some n.toNat := by
  have hneg : ¬ n < 0 := by omega
  rw [numeral?_of_begins h, Option.bind_some, Numeral.date?]
  simp only [hneg, decide_false, Option.isNone_none, Bool.not_false, Bool.and_self,
    ofDigits_digitsOf, decide_eq_true hmax, if_true]
  exact congrArg some (by omega)

theorem itemsFrom_written (v : Value) (items : List Value) (rest : Bytes) (fuel : Nat)
    (hfuel : items.length < fuel) :
    ∃ views, itemsFrom fuel (bytes (itemChars (v :: items)) ++ byte ']' :: rest) = some views ∧
      List.Forall₂ Begins (v :: items) views := by
  induction items generalizing v fuel with
  | nil =>
      obtain ⟨fuel, rfl⟩ := Nat.exists_eq_add_of_lt hfuel
      have hclose : Delimited (byte ']' :: rest) := delimited_cons (.inr (.inl rfl)) rest
      refine ⟨[bytes v.chars ++ byte ']' :: rest], ?_, .cons ⟨_, hclose, rfl⟩ .nil⟩
      rw [itemsFrom, itemChars, skip_value v hclose, Option.bind_eq_bind, Option.bind_some,
        skipSpace_cons rfl]
      rfl
  | cons w items ih =>
      obtain ⟨fuel, rfl⟩ := Nat.exists_eq_add_of_lt hfuel
      have hcomma : Delimited (byte ',' :: (bytes (itemChars (w :: items)) ++ byte ']' :: rest)) :=
        delimited_cons (.inl rfl) _
      obtain ⟨views, hviews, hall⟩ := ih w (items.length + 1 + fuel) (by omega)
      rw [bytes_items, List.append_assoc, List.cons_append]
      refine ⟨_, ?_, .cons ⟨_, hcomma, rfl⟩ hall⟩
      rw [List.length_cons, itemsFrom, skip_value v hcomma, Option.bind_eq_bind, Option.bind_some,
        skipSpace_cons rfl]
      simp only [if_true, hviews, Option.bind_eq_bind, Option.bind_some, Option.pure_def]

theorem length_le_items (items : List Value) : items.length ≤ (bytes (itemChars items)).length := by
  induction items with
  | nil => exact Nat.le_refl 0
  | cons v items ih =>
      obtain ⟨b, tail, hbytes, -⟩ := exists_bytes_chars_eq_cons v
      cases items with
      | nil =>
          rw [itemChars, hbytes]
          simp only [List.length_cons, List.length_nil]
          omega
      | cons w items =>
          rw [bytes_items, hbytes, List.length_append]
          simp only [List.length_cons] at ih ⊢
          omega

theorem head?_items (v : Value) (items : List Value) (rest : Bytes) :
    (skipSpace (bytes (itemChars (v :: items)) ++ rest)).head? ≠ some (byte ']') := by
  obtain ⟨b, tail, hbytes, hspace, hclose⟩ := exists_bytes_chars_eq_cons v
  have hfirst : ∃ more, bytes (itemChars (v :: items)) = b :: more := by
    cases items with
    | nil => exact ⟨tail, by rw [itemChars, hbytes]⟩
    | cons w items => exact ⟨_, by rw [bytes_items, hbytes, List.cons_append]⟩
  obtain ⟨more, hmore⟩ := hfirst
  rw [hmore, List.cons_append, skipSpace_cons hspace, List.head?_cons]
  exact fun heq => hclose (Option.some.inj heq)

theorem items?_of_begins {items : List Value} (h : Begins (.array items) bs) :
    ∃ views, items? bs = some views ∧ List.Forall₂ Begins items views := by
  obtain ⟨rest, -, rfl⟩ := h
  have hopen : isSpace (byte '[') = false := rfl
  rw [bytes_array, List.cons_append, List.append_assoc, List.singleton_append, items?,
    skipSpace_cons hopen]
  simp only [if_true]
  cases items with
  | nil => exact ⟨[], rfl, .nil⟩
  | cons v items =>
      have hlength := length_le_items (v :: items)
      obtain ⟨views, hviews, hall⟩ := itemsFrom_written v items rest
        (bytes (itemChars (v :: items)) ++ byte ']' :: rest).length
        (by rw [List.length_append]; simp only [List.length_cons] at hlength ⊢; omega)
      exact ⟨views, by rw [if_neg (head?_items v items _), hviews], hall⟩

theorem list?_of_begins {α : Type} {read : Bytes → Option α} {write : α → Value} {as : List α}
    (h : Begins (.array (as.map write)) bs)
    (hread : ∀ a ∈ as, ∀ view, Begins (write a) view → read view = some a) :
    list? read bs = some as := by
  obtain ⟨views, hviews, hall⟩ := items?_of_begins h
  rw [list?, hviews, Option.bind_eq_bind, Option.bind_some]
  clear h hviews
  induction as generalizing views with
  | nil => cases hall; rfl
  | cons a as ih =>
      rw [List.map_cons, List.forall₂_cons_left_iff] at hall
      obtain ⟨view, views, hview, hall, rfl⟩ := hall
      have hrest := ih (fun b hb => hread b (List.mem_cons_of_mem a hb)) views hall
      rw [List.mapM_cons, hread a List.mem_cons_self view hview, hrest]
      rfl

/-- The member is given by its key and the bytes that begin with its value. -/
def BeginsMember (member : String × Value) (view : String × Bytes) : Prop :=
  view.1 = member.1 ∧ Begins member.2 view.2

theorem member?_written (key : String) (rest : Bytes) :
    member? (bytes (quoted key) ++ byte ':' :: rest) = some (key, rest) := by
  have hquote : isSpace (byte '"') = false := rfl
  have hcolon : isSpace (byte ':') = false := rfl
  rw [bytes_quoted, List.cons_append, List.append_assoc, List.singleton_append, member?,
    skipSpace_cons hquote]
  simp only [if_true, text?_written, Option.bind_eq_bind, Option.bind_some, skipSpace_cons hcolon]

theorem membersFrom_written (member : String × Value) (members : List (String × Value))
    (rest : Bytes) (fuel : Nat) (hfuel : members.length < fuel) :
    ∃ views, membersFrom fuel (bytes (memberChars (member :: members)) ++ byte '\x7d' :: rest) =
        some views ∧
      List.Forall₂ BeginsMember (member :: members) views := by
  -- on the members behind the first one, for those are read with one turn less
  induction members generalizing member fuel with
  | nil =>
      obtain ⟨key, v⟩ := member
      obtain ⟨fuel, rfl⟩ := Nat.exists_eq_add_of_lt hfuel
      have hclose : Delimited (byte '\x7d' :: rest) := delimited_cons (.inr (.inr rfl)) rest
      refine ⟨[(key, bytes v.chars ++ byte '\x7d' :: rest)], ?_, .cons ⟨rfl, _, hclose, rfl⟩ .nil⟩
      rw [bytes_member, List.append_assoc, List.cons_append, membersFrom, member?_written]
      simp only [Option.bind_eq_bind, Option.bind_some]
      rw [skip_value v hclose, Option.bind_some, skipSpace_cons rfl]
      rfl
  | cons next members ih =>
      obtain ⟨key, v⟩ := member
      obtain ⟨fuel, rfl⟩ := Nat.exists_eq_add_of_lt hfuel
      have hcomma : Delimited
          (byte ',' :: (bytes (memberChars (next :: members)) ++ byte '\x7d' :: rest)) :=
        delimited_cons (.inl rfl) _
      obtain ⟨views, hviews, hall⟩ := ih next (members.length + 1 + fuel) (by omega)
      refine ⟨(key, bytes v.chars ++ byte ',' ::
          (bytes (memberChars (next :: members)) ++ byte '\x7d' :: rest)) :: views, ?_,
        .cons ⟨rfl, _, hcomma, rfl⟩ hall⟩
      rw [bytes_members, List.append_assoc, List.cons_append, List.append_assoc, List.cons_append,
        List.length_cons, membersFrom, member?_written]
      simp only [Option.bind_eq_bind, Option.bind_some]
      rw [skip_value v hcomma, Option.bind_some, skipSpace_cons rfl]
      simp only [if_true, hviews, Option.bind_some, Option.pure_def]

theorem length_le_members (members : List (String × Value)) :
    members.length ≤ (bytes (memberChars members)).length := by
  induction members with
  | nil => exact Nat.le_refl 0
  | cons member members ih =>
      obtain ⟨key, v⟩ := member
      cases members with
      | nil =>
          rw [bytes_member, bytes_quoted]
          simp only [List.length_cons, List.length_nil, List.length_append]
          omega
      | cons next members =>
          rw [bytes_members, bytes_quoted]
          simp only [List.length_cons, List.length_append] at ih ⊢
          omega

theorem head?_members (member : String × Value) (members : List (String × Value)) (rest : Bytes) :
    (skipSpace (bytes (memberChars (member :: members)) ++ rest)).head? ≠ some (byte '\x7d') := by
  have hfirst : ∃ more, bytes (memberChars (member :: members)) = byte '"' :: more := by
    obtain ⟨key, v⟩ := member
    cases members with
    | nil => exact ⟨_, by rw [bytes_member, bytes_quoted, List.cons_append]⟩
    | cons next members => exact ⟨_, by rw [bytes_members, bytes_quoted, List.cons_append]⟩
  obtain ⟨more, hmore⟩ := hfirst
  rw [hmore, List.cons_append, skipSpace_cons rfl, List.head?_cons]
  decide

theorem members?_of_begins {members : List (String × Value)} (h : Begins (.object members) bs) :
    ∃ views, members? bs = some views ∧ List.Forall₂ BeginsMember members views := by
  obtain ⟨rest, -, rfl⟩ := h
  have hopen : isSpace (byte '\x7b') = false := rfl
  rw [bytes_object, List.cons_append, List.append_assoc, List.singleton_append, members?,
    skipSpace_cons hopen]
  simp only [if_true]
  cases members with
  | nil => exact ⟨[], rfl, .nil⟩
  | cons member members =>
      have hlength := length_le_members (member :: members)
      obtain ⟨views, hviews, hall⟩ := membersFrom_written member members rest
        (bytes (memberChars (member :: members)) ++ byte '\x7d' :: rest).length
        (by rw [List.length_append]; simp only [List.length_cons] at hlength ⊢; omega)
      exact ⟨views, by rw [if_neg (head?_members member members _), hviews], hall⟩

theorem map_fst_of_forall₂ {members : List (String × Value)} {views : List (String × Bytes)}
    (h : List.Forall₂ BeginsMember members views) : views.map (·.1) = members.map (·.1) := by
  induction h with
  | nil => rfl
  | cons hmember _ ih => rw [List.map_cons, List.map_cons, hmember.1, ih]

theorem lookup_of_forall₂ {members : List (String × Value)} {views : List (String × Bytes)}
    (h : List.Forall₂ BeginsMember members views) (key : String) :
    Option.Rel Begins (members.lookup key) (views.lookup key) := by
  induction h with
  | nil => exact .none
  | @cons member view _ _ hmember _ ih =>
      obtain ⟨name, v⟩ := member
      obtain ⟨name', view⟩ := view
      obtain ⟨hname, hv⟩ := hmember
      subst hname
      rw [List.lookup_cons, List.lookup_cons]
      cases key == name' with
      | true => exact .some hv
      | false => exact ih

theorem countP_key_le_one {β : Type} {members : List (String × β)}
    (hkeys : (members.map (·.1)).Nodup) (key : String) :
    members.countP (·.1 == key) ≤ 1 := by
  have hcount : members.countP (·.1 == key) = (members.map (·.1)).count key := by
    rw [List.count, List.countP_map]
    rfl
  rw [hcount]
  exact List.nodup_iff_count.mp hkeys key

theorem lookup_of_mem {β : Type} {members : List (String × β)} {m : String × β} (hm : m ∈ members)
    (honce : members.countP (·.1 == m.1) ≤ 1) : members.lookup m.1 = some m.2 := by
  obtain ⟨front, back, rfl⟩ := List.append_of_mem hm
  rw [List.countP_append, List.countP_cons_of_pos (by simp)] at honce
  refine List.lookup_eq_some_iff.mpr ⟨front, back, rfl, ?_⟩
  intro m' hm'
  have hfront : front.countP (·.1 == m.1) = 0 := by omega
  have hkey := List.countP_eq_zero.mp hfront m' hm'
  exact bne_iff_ne.mpr fun heq => hkey (beq_iff_eq.mpr heq.symm)

/-- A record is read from an object whose keys differ, each field from the member with its key. -/
theorem fields?_of_begins {members : List (String × Value)} (h : Begins (.object members) bs)
    (hkeys : (members.map (·.1)).Nodup) {names : List String} (mayEndEarly : Bool)
    {values : List (Option Value)}
    (hvalues : names.map (fun name => members.lookup name) = values) :
    ∃ fields, fields? names mayEndEarly bs = some fields ∧
      List.Forall₂ (Option.Rel Begins) values fields := by
  obtain ⟨views, hviews, hall⟩ := members?_of_begins h
  have honce := countP_key_le_one (map_fst_of_forall₂ hall ▸ hkeys)
  refine ⟨names.map fun name => views.lookup name, ?_, ?_⟩
  · rw [fields?, hviews]
    exact if_pos (List.all_eq_true.mpr fun name _ => decide_eq_true (honce name))
  · rw [← hvalues, List.forall₂_map_left_iff, List.forall₂_map_right_iff]
    exact List.forall₂_same.mpr fun name _ => lookup_of_forall₂ hall name

theorem map_lookup_keys {members : List (String × Value)} (hkeys : (members.map (·.1)).Nodup) :
    (members.map (·.1)).map (fun name => members.lookup name) =
      members.map fun m => some m.2 := by
  rw [List.map_map]
  exact List.map_congr_left fun m hm => lookup_of_mem hm (countP_key_le_one hkeys m.1)

theorem fields?_of_keys {members : List (String × Value)} (h : Begins (.object members) bs)
    (hkeys : (members.map (·.1)).Nodup) (mayEndEarly : Bool) :
    ∃ fields, fields? (members.map (·.1)) mayEndEarly bs = some fields ∧
      List.Forall₂ (Option.Rel Begins) (members.map fun m => some m.2) fields :=
  fields?_of_begins h hkeys mayEndEarly (map_lookup_keys hkeys)

end Weblog.Json
