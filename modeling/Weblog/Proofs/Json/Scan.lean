import Weblog.Json.Scan
import Weblog.Json.Value
import Weblog.Proofs.Json.Text
import Weblog.Proofs.Text.Ascii

namespace Weblog.Json

open Utf8 (bytes)
open Weblog.Text (toNat_of_isDigit ascii_of_isDigit)

/-- What may follow a value: nothing, a comma, or a bracket that closes. -/
def Delimited (rest : Bytes) : Prop :=
  ∀ b ∈ rest.head?, b = byte ',' ∨ b = byte ']' ∨ b = byte '\x7d'

theorem delimited_nil : Delimited [] := nofun

theorem delimited_cons {b : UInt8} (hb : b = byte ',' ∨ b = byte ']' ∨ b = byte '\x7d')
    (rest : Bytes) : Delimited (b :: rest) := by
  rintro _ ⟨⟩
  exact hb

section

variable {stage stage' : Stage} {stack stack' : List Bracket} {b : UInt8} {rest : Bytes}

theorem scan_cons (hstep : stage.step stack b = some (stage', stack'))
    (hend : stage.isNumberEnd = false) (hopen : (stage == .done && stack.isEmpty) = false) :
    scan stage stack (b :: rest) = scan stage' stack' rest := by
  have hbefore : stage.before b = stage := by rw [Stage.before, hend, Bool.false_and]; rfl
  rw [scan, hbefore]
  simp only [hopen, Bool.false_eq_true, if_false, hstep]

theorem scan_numberEnd (hend : stage.isNumberEnd = true) (hrest : Delimited rest) :
    scan stage stack rest = scan .done stack rest := by
  cases rest with
  | nil => simp only [scan, hend, Bool.or_true, BEq.rfl, Bool.true_or]
  | cons b rest =>
      have hstops : stage.carriesOn b = false := by
        rcases hrest b rfl with rfl | rfl | rfl <;> cases stage <;> first | rfl | exact nomatch hend
      have hbefore : stage.before b = .done := by rw [Stage.before, hend, hstops]; rfl
      rw [scan, scan, hbefore]
      rfl

theorem scan_done_nil (rest : Bytes) : scan .done [] rest = some rest := by
  cases rest <;> rfl

end

section

variable {isKey : Bool} {stack : List Bracket} {rest : Bytes}

theorem scan_literals {bs : Bytes} (hbs : ∀ b ∈ bs, IsLiteral b) :
    scan (.text isKey) stack (bs ++ rest) = scan (.text isKey) stack rest := by
  induction bs with
  | nil => rfl
  | cons b bs ih =>
      obtain ⟨⟨hquote, hslash, hcontrol⟩, hbs⟩ := List.forall_mem_cons.mp hbs
      have hstep : Stage.step (.text isKey) stack b = some (.text isKey, stack) := by
        simp only [Stage.step, if_neg hquote, if_neg hslash, if_neg hcontrol]
      rw [List.cons_append, scan_cons hstep rfl rfl, ih hbs]

theorem scan_escape (c : Char) :
    scan (.text isKey) stack (bytes (escape c) ++ rest) = scan (.text isKey) stack rest := by
  have hslash : Stage.step (.text isKey) stack (byte '\\') = some (.escape isKey, stack) := rfl
  cases escape_forms c with
  | @letter e hform he hu hc hread =>
      have hletter : Stage.step (.escape isKey) stack (byte e) = some (.text isKey, stack) := by
        simp only [Stage.step, if_neg hu, hread, Option.isSome_some, if_true]
      rw [hform, Utf8.bytes_cons_ascii (by decide), Utf8.bytes_cons_ascii he, List.cons_append,
        scan_cons hslash rfl rfl]
      exact scan_cons hletter rfl rfl
  | number hform hc =>
      have hdigit : ∀ n < 16, ∀ left, Stage.step (.hex isKey (left + 2)) stack (byte (hexDigit n)) =
          some (.hex isKey (left + 1), stack) := by
        intro n hn left
        simp only [Stage.step, hexValue_hexDigit n hn, Option.isSome_some, if_true]
        rw [if_neg (by omega)]
        rfl
      have hlast : ∀ n < 16, Stage.step (.hex isKey 1) stack (byte (hexDigit n)) =
          some (.text isKey, stack) := by
        intro n hn
        simp only [Stage.step, hexValue_hexDigit n hn, Option.isSome_some, if_true]
        rfl
      have hu : Stage.step (.escape isKey) stack (byte 'u') = some (.hex isKey 4, stack) := rfl
      have hzero : byte '0' = byte (hexDigit 0) := rfl
      rw [hform, bytes_number (by omega) (by omega), hzero]
      simp only [List.cons_append, List.nil_append]
      rw [scan_cons hslash rfl rfl, scan_cons hu rfl rfl,
        scan_cons (hdigit 0 (by decide) 2) rfl rfl, scan_cons (hdigit 0 (by decide) 1) rfl rfl,
        scan_cons (hdigit _ (by omega) 0) rfl rfl,
        scan_cons (hlast _ (by omega)) rfl rfl]
  | itself hform hliteral =>
      rw [hform, bytes, List.flatMap_singleton, scan_literals hliteral]

theorem scan_text (cs : List Char) :
    scan (.text isKey) stack (bytes (cs.flatMap escape) ++ byte '"' :: rest) =
      scan (afterText isKey) stack rest := by
  induction cs with
  | nil => exact scan_cons (rfl : Stage.step (.text isKey) stack (byte '"') = _) rfl rfl
  | cons c cs ih =>
      rw [List.flatMap_cons, Utf8.bytes_append, List.append_assoc, scan_escape, ih]

end

theorem bytes_quoted (s : String) :
    bytes (quoted s) = byte '"' :: (bytes (s.toList.flatMap escape) ++ [byte '"']) := by
  have hquote : bytes ['"'] = [byte '"'] := rfl
  rw [quoted, List.cons_append, Utf8.bytes_cons_ascii (by decide), Utf8.bytes_append, hquote]

theorem scan_quoted {stage : Stage} {isKey : Bool} {stack : List Bracket} {rest : Bytes}
    (hstep : stage.step stack (byte '"') = some (.text isKey, stack))
    (hend : stage.isNumberEnd = false) (hopen : (stage == .done && stack.isEmpty) = false)
    (s : String) :
    scan stage stack (bytes (quoted s) ++ rest) = scan (afterText isKey) stack rest := by
  rw [bytes_quoted, List.cons_append, List.append_assoc, List.singleton_append,
    scan_cons hstep hend hopen, scan_text]

theorem exists_toDigits_eq_cons {n : Nat} (hn : 0 < n) :
    ∃ d < 10, 0 < d ∧ ∃ ds, Nat.toDigits 10 n = Nat.digitChar d :: ds ∧
      ∀ c ∈ ds, c.isDigit = true := by
  induction n using Nat.strongRecOn with
  | ind n ih =>
      rw [Nat.toDigits_eq_if (by decide)]
      by_cases hsmall : n < 10
      · rw [if_pos hsmall]
        exact ⟨n, hsmall, hn, [], rfl, List.forall_mem_nil _⟩
      · rw [if_neg hsmall]
        obtain ⟨d, hd, hpos, ds, hds, hdigits⟩ := ih (n / 10) (by omega) (by omega)
        refine ⟨d, hd, hpos, ds ++ [Nat.digitChar (n % 10)], by rw [hds]; rfl, ?_⟩
        rw [List.forall_mem_append]
        refine ⟨hdigits, ?_⟩
        rintro c hc
        rw [List.mem_singleton.mp hc, Nat.isDigit_digitChar]
        exact decide_eq_true (by omega)

theorem isDigit_byte {c : Char} (hc : c.isDigit = true) : isDigit (byte c) = true := by
  have hbounds := toNat_of_isDigit hc
  rw [isDigit, Bool.and_eq_true, decide_eq_true_eq, decide_eq_true_eq, UInt8.le_iff_toNat_le,
    UInt8.le_iff_toNat_le, Utf8.toNat_byte (ascii_of_isDigit hc)]
  exact hbounds

theorem isSpace_of_isDigit {b : UInt8} (hb : isDigit b = true) : isSpace b = false := by
  rw [isDigit, Bool.and_eq_true, decide_eq_true_eq] at hb
  have hne : ∀ c : UInt8, c < 0x30 → (b == c) = false := by
    rintro c hc
    refine beq_eq_false_iff_ne.mpr ?_
    rintro rfl
    exact absurd hb.1 (UInt8.not_le.mpr hc)
  rw [isSpace, hne 0x20 (by decide), hne 0x0A (by decide), hne 0x0D (by decide),
    hne 0x09 (by decide)]
  rfl

section

variable {stack : List Bracket} {rest : Bytes}

theorem scan_integer {bs : Bytes} (hbs : ∀ b ∈ bs, isDigit b = true) (hrest : Delimited rest) :
    scan .integer stack (bs ++ rest) = scan .done stack rest := by
  induction bs with
  | nil => exact scan_numberEnd rfl hrest
  | cons b bs ih =>
      obtain ⟨hb, hbs⟩ := List.forall_mem_cons.mp hbs
      have hcarries : Stage.carriesOn .integer b = true := by
        simp only [Stage.carriesOn, hb, Bool.true_or]
      have hbefore : Stage.before .integer b = .integer := by
        rw [Stage.before, hcarries, Bool.not_true, Bool.and_false]
        rfl
      have hgoes : ¬ ((Stage.integer == .done) && stack.isEmpty) = true := nofun
      have hstep : Stage.step .integer stack b = some (.integer, stack) := by
        simp only [Stage.step, hb, if_true]
      rw [List.cons_append, scan, hbefore]
      simp only [if_neg hgoes, hstep, ih hbs]

theorem digitChar_steps : ∀ d < 10, 0 < d → ∀ stack : List Bracket,
    Stage.step .value stack (byte (Nat.digitChar d)) = some (.integer, stack) ∧
      Stage.step .minus stack (byte (Nat.digitChar d)) = some (.integer, stack) := by
  intro d hd hpos stack
  obtain rfl | rfl | rfl | rfl | rfl | rfl | rfl | rfl | rfl :
    d = 1 ∨ d = 2 ∨ d = 3 ∨ d = 4 ∨ d = 5 ∨ d = 6 ∨ d = 7 ∨ d = 8 ∨ d = 9 := by omega
  all_goals exact ⟨rfl, rfl⟩

theorem scan_toDigits {stage : Stage} (hstage : stage = .value ∨ stage = .minus) {n : Nat}
    (hn : 0 < n) (hrest : Delimited rest) :
    scan stage stack (bytes (Nat.toDigits 10 n) ++ rest) = scan .done stack rest := by
  obtain ⟨d, hd, hpos, ds, hds, hdigits⟩ := exists_toDigits_eq_cons hn
  have hfirst : (Nat.digitChar d).isDigit = true := by
    rw [Nat.isDigit_digitChar]
    exact decide_eq_true hd
  have hsteps := digitChar_steps d hd hpos stack
  have hbytes : ∀ b ∈ bytes ds, isDigit b = true := by
    rw [Utf8.bytes_ascii fun c hc => ascii_of_isDigit (hdigits c hc)]
    exact List.forall_mem_map.mpr fun c hc => isDigit_byte (hdigits c hc)
  rw [hds, Utf8.bytes_cons_ascii (ascii_of_isDigit hfirst), List.cons_append]
  rcases hstage with rfl | rfl
  · rw [scan_cons hsteps.1 rfl rfl, scan_integer hbytes hrest]
  · rw [scan_cons hsteps.2 rfl rfl, scan_integer hbytes hrest]

theorem exists_bytes_decimal_eq_cons (n : Int) :
    ∃ b bs, bytes (decimal n) = b :: bs ∧ (b = byte '-' ∨ isDigit b = true) := by
  rw [decimal]
  split
  · exact ⟨byte '-', _, Utf8.bytes_cons_ascii (by decide) _, .inl rfl⟩
  · by_cases hzero : n.natAbs = 0
    · rw [hzero]
      exact ⟨byte '0', [], rfl, .inr rfl⟩
    · obtain ⟨d, hd, -, ds, hds, -⟩ := exists_toDigits_eq_cons (Nat.pos_of_ne_zero hzero)
      have hfirst : (Nat.digitChar d).isDigit = true := by
        rw [Nat.isDigit_digitChar]
        exact decide_eq_true hd
      rw [hds, Utf8.bytes_cons_ascii (ascii_of_isDigit hfirst)]
      exact ⟨_, _, rfl, .inr (isDigit_byte hfirst)⟩

theorem scan_decimal (n : Int) (hrest : Delimited rest) :
    scan .value stack (bytes (decimal n) ++ rest) = scan .done stack rest := by
  rw [decimal]
  split
  · rename_i hneg
    have hminus : Stage.step .value stack (byte '-') = some (.minus, stack) := rfl
    rw [Utf8.bytes_cons_ascii (by decide), List.cons_append, scan_cons hminus rfl rfl]
    exact scan_toDigits (.inr rfl) (by omega) hrest
  · by_cases hzero : n = 0
    · subst hzero
      have hzero : Stage.step .value stack (byte '0') = some (.zero, stack) := rfl
      exact (scan_cons hzero rfl rfl).trans (scan_numberEnd rfl hrest)
    · exact scan_toDigits (.inl rfl) (by omega) hrest

end

theorem scan_word {w : UInt8} {ws : Bytes} (stack : List Bracket) (rest : Bytes) :
    scan (.word (w :: ws)) stack (w :: ws ++ rest) = scan .done stack rest := by
  induction ws generalizing w with
  | nil =>
      have hstep : Stage.step (.word [w]) stack w = some (.done, stack) := by
        simp only [Stage.step, if_true, List.isEmpty_nil]
      exact scan_cons hstep rfl rfl
  | cons w' ws ih =>
      have hstep : Stage.step (.word (w :: w' :: ws)) stack w = some (.word (w' :: ws), stack) := by
        simp only [Stage.step, if_true, List.isEmpty_cons, Bool.false_eq_true, if_false]
      exact (scan_cons hstep rfl rfl).trans (ih (w := w'))

theorem bytes_array (items : List Value) :
    bytes (Value.array items).chars = byte '[' :: (bytes (itemChars items) ++ [byte ']']) := by
  have hclose : bytes [']'] = [byte ']'] := rfl
  rw [Value.chars, List.cons_append, Utf8.bytes_cons_ascii (by decide), Utf8.bytes_append, hclose]

theorem bytes_object (members : List (String × Value)) :
    bytes (Value.object members).chars =
      byte '\x7b' :: (bytes (memberChars members) ++ [byte '\x7d']) := by
  have hclose : bytes ['\x7d'] = [byte '\x7d'] := rfl
  rw [Value.chars, List.cons_append, Utf8.bytes_cons_ascii (by decide), Utf8.bytes_append, hclose]

theorem bytes_items (v w : Value) (items : List Value) :
    bytes (itemChars (v :: w :: items)) =
      bytes v.chars ++ byte ',' :: bytes (itemChars (w :: items)) := by
  rw [itemChars, Utf8.bytes_append, Utf8.bytes_cons_ascii (by decide)]
  nofun

theorem bytes_member (key : String) (v : Value) :
    bytes (memberChars [(key, v)]) = bytes (quoted key) ++ byte ':' :: bytes v.chars := by
  rw [memberChars, Utf8.bytes_append, Utf8.bytes_cons_ascii (by decide)]

theorem bytes_members (key : String) (v : Value) (member : String × Value)
    (members : List (String × Value)) :
    bytes (memberChars ((key, v) :: member :: members)) =
      bytes (quoted key) ++ byte ':' ::
        (bytes v.chars ++ byte ',' :: bytes (memberChars (member :: members))) := by
  rw [memberChars, Utf8.bytes_append, Utf8.bytes_cons_ascii (by decide), Utf8.bytes_append,
    Utf8.bytes_cons_ascii (by decide)]
  nofun

theorem exists_bytes_chars_eq_cons (v : Value) :
    ∃ b bs, bytes v.chars = b :: bs ∧ isSpace b = false ∧ b ≠ byte ']' := by
  match v with
  | .null => exact ⟨byte 'n', _, rfl, rfl, by decide⟩
  | .bool true => exact ⟨byte 't', _, rfl, rfl, by decide⟩
  | .bool false => exact ⟨byte 'f', _, rfl, rfl, by decide⟩
  | .int n =>
      obtain ⟨b, bs, hbytes, hb⟩ := exists_bytes_decimal_eq_cons n
      refine ⟨b, bs, hbytes, ?_⟩
      rcases hb with rfl | hb
      · exact ⟨rfl, by decide⟩
      · exact ⟨isSpace_of_isDigit hb, by rintro rfl; exact nomatch hb⟩
  | .string s => exact ⟨byte '"', _, bytes_quoted s, rfl, by decide⟩
  | .array items => exact ⟨byte '[', _, bytes_array items, rfl, by decide⟩
  | .object members => exact ⟨byte '\x7b', _, bytes_object members, rfl, by decide⟩

theorem scan_firstItem (v : Value) (stack : List Bracket) (rest : Bytes) :
    scan .firstItem stack (bytes v.chars ++ rest) = scan .value stack (bytes v.chars ++ rest) := by
  obtain ⟨b, bs, hbytes, hspace, hclose⟩ := exists_bytes_chars_eq_cons v
  have hstep : Stage.step .firstItem stack b = Stage.step .value stack b := by
    simp only [Stage.step, hspace, Bool.false_eq_true, if_false, if_neg hclose]
  have hfirst : Stage.before .firstItem b = .firstItem := rfl
  have hvalue : Stage.before .value b = .value := rfl
  rw [hbytes, List.cons_append, scan, scan, hfirst, hvalue, hstep]
  rfl

theorem scan_key {stage : Stage} (hstage : stage = .firstKey ∨ stage = .key) (key : String)
    (stack : List Bracket) (rest : Bytes) :
    scan stage stack (bytes (quoted key) ++ byte ':' :: rest) = scan .value stack rest := by
  have hcolon : Stage.step .colon stack (byte ':') = some (.value, stack) := rfl
  have hend : scan (afterText true) stack (byte ':' :: rest) = scan .value stack rest :=
    scan_cons hcolon rfl rfl
  rcases hstage with rfl | rfl
  · have hopen : Stage.step .firstKey stack (byte '"') = some (.text true, stack) := rfl
    rw [scan_quoted hopen rfl rfl, hend]
  · have hopen : Stage.step .key stack (byte '"') = some (.text true, stack) := rfl
    rw [scan_quoted hopen rfl rfl, hend]

mutual

/-- What has been written is passed over, whatever brackets are open. -/
theorem scan_value (v : Value) (stack : List Bracket) {rest : Bytes} (hrest : Delimited rest) :
    scan .value stack (bytes v.chars ++ rest) = scan .done stack rest := by
  match v with
  | .null =>
      have hstep : Stage.step .value stack (byte 'n') =
          some (.word [byte 'u', byte 'l', byte 'l'], stack) := rfl
      exact (scan_cons hstep rfl rfl).trans (scan_word stack rest)
  | .bool true =>
      have hstep : Stage.step .value stack (byte 't') =
          some (.word [byte 'r', byte 'u', byte 'e'], stack) := rfl
      exact (scan_cons hstep rfl rfl).trans (scan_word stack rest)
  | .bool false =>
      have hstep : Stage.step .value stack (byte 'f') =
          some (.word [byte 'a', byte 'l', byte 's', byte 'e'], stack) := rfl
      exact (scan_cons hstep rfl rfl).trans (scan_word stack rest)
  | .int n => exact scan_decimal n hrest
  | .string s =>
      have hopen : Stage.step .value stack (byte '"') = some (.text false, stack) := rfl
      exact scan_quoted hopen rfl rfl s
  | .array [] =>
      have hopen : Stage.step .value stack (byte '[') = some (.firstItem, .array :: stack) := rfl
      have hclose : Stage.step .firstItem (.array :: stack) (byte ']') = some (.done, stack) := rfl
      exact (scan_cons hopen rfl rfl).trans (scan_cons hclose rfl rfl)
  | .array (v :: items) =>
      have hopen : Stage.step .value stack (byte '[') = some (.firstItem, .array :: stack) := rfl
      rw [bytes_array, List.cons_append, List.append_assoc, List.singleton_append,
        scan_cons hopen rfl rfl]
      cases items with
      | nil => exact (scan_firstItem v _ _).trans (scan_items v [] stack rest)
      | cons w items =>
          have hitems := scan_items v (w :: items) stack rest
          rw [bytes_items, List.append_assoc] at hitems ⊢
          rw [scan_firstItem, hitems]
  | .object [] =>
      have hopen : Stage.step .value stack (byte '\x7b') = some (.firstKey, .object :: stack) := rfl
      have hclose : Stage.step .firstKey (.object :: stack) (byte '\x7d') = some (.done, stack) :=
        rfl
      exact (scan_cons hopen rfl rfl).trans (scan_cons hclose rfl rfl)
  | .object (member :: members) =>
      have hopen : Stage.step .value stack (byte '\x7b') = some (.firstKey, .object :: stack) := rfl
      rw [bytes_object, List.cons_append, List.append_assoc, List.singleton_append,
        scan_cons hopen rfl rfl]
      exact scan_members (.inl rfl) member members stack rest
termination_by sizeOf v

theorem scan_items (v : Value) (items : List Value) (stack : List Bracket) (rest : Bytes) :
    scan .value (.array :: stack) (bytes (itemChars (v :: items)) ++ byte ']' :: rest) =
      scan .done stack rest := by
  match items with
  | [] =>
      have hclose : Stage.step .done (.array :: stack) (byte ']') = some (.done, stack) := rfl
      rw [itemChars, scan_value v _ (delimited_cons (.inr (.inl rfl)) rest),
        scan_cons hclose rfl rfl]
  | w :: items =>
      have hcomma : Stage.step .done (.array :: stack) (byte ',') =
          some (.value, .array :: stack) := rfl
      rw [bytes_items, List.append_assoc, List.cons_append,
        scan_value v _ (delimited_cons (.inl rfl) _), scan_cons hcomma rfl rfl]
      exact scan_items w items stack rest
termination_by sizeOf (v :: items)

theorem scan_members {stage : Stage} (hstage : stage = .firstKey ∨ stage = .key)
    (member : String × Value) (members : List (String × Value)) (stack : List Bracket)
    (rest : Bytes) :
    scan stage (.object :: stack) (bytes (memberChars (member :: members)) ++ byte '\x7d' :: rest) =
      scan .done stack rest := by
  match member, members with
  | (key, v), [] =>
      have hclose : Stage.step .done (.object :: stack) (byte '\x7d') = some (.done, stack) := rfl
      rw [bytes_member, List.append_assoc, List.cons_append, scan_key hstage,
        scan_value v _ (delimited_cons (.inr (.inr rfl)) rest), scan_cons hclose rfl rfl]
  | (key, v), member :: members =>
      have hcomma : Stage.step .done (.object :: stack) (byte ',') =
          some (.key, .object :: stack) := rfl
      rw [bytes_members, List.append_assoc, List.cons_append, scan_key hstage, List.append_assoc,
        List.cons_append, scan_value v _ (delimited_cons (.inl rfl) _), scan_cons hcomma rfl rfl]
      exact scan_members (.inr rfl) member members stack rest
termination_by sizeOf (member :: members)

end

theorem skip_value (v : Value) {rest : Bytes} (hrest : Delimited rest) :
    skip (bytes v.chars ++ rest) = some rest := by
  rw [skip, scan_value v [] hrest, scan_done_nil]

end Weblog.Json
