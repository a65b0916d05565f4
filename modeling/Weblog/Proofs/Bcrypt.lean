import Mathlib.Tactic.IntervalCases
import Weblog.Bcrypt.Hash
import Weblog.Proofs.Text.Base64
import Weblog.Proofs.Text.Split
import Weblog.Proofs.Text.Utf8

namespace Weblog

open Json (byte)

namespace Base64

theorem isReadable_crypt : crypt.IsReadable := by
  refine isReadable_literal ?_
  unfold Alphabet.IsReadable
  decide

theorem length_sextets (bytes : Bytes) : (sextets bytes).length = (bytes.length * 4 + 2) / 3 := by
  fun_induction sextets bytes with
  | case1 x y z rest a b c ih =>
      simp only [List.length_cons, ih]
      omega
  | case2 | case3 | case4 => simp

theorem length_encode (a : Alphabet) (bytes : Bytes) :
    (encode a bytes).length = (bytes.length * 4 + 2) / 3 := by
  rw [encode, List.length_map, length_sextets]

end Base64

namespace Bcrypt

open Base64 Text

/-- The symbols of the bytes, which stand for themselves in a hash. -/
def symbols (bs : Bytes) : Bytes :=
  (encode crypt bs).map byte

/-- The character may stand in the last part of a hash. -/
def isSymbolic (c : Char) : Bool :=
  c.toNat < 0x80 && c != '$' && !isContinuation (byte c)

theorem isSymbolic_symbol (v : Nat) : isSymbolic (crypt.symbol v) = true := by
  have hliteral : ∀ cs : List Char, cs.all isSymbolic = true →
      (String.ofList cs).toList.all isSymbolic = true := by simp
  have hall : crypt.symbols.all isSymbolic = true := hliteral _ (by decide)
  rw [Alphabet.symbol, List.getD_eq_getElem?_getD]
  cases hsymbol : crypt.symbols[v]? with
  | none => decide
  | some c => exact List.all_eq_true.mp hall c (List.mem_of_getElem? hsymbol)

theorem isSymbolic_encode (bs : Bytes) :
    ∀ c ∈ encode crypt bs,
      (c.toNat < 0x80 ∧ c ≠ '$') ∧ isContinuation (byte c) = false := by
  intro c hc
  have hsymbolic := forall_mem_encode (P := fun c => isSymbolic c = true)
    (fun v _ => isSymbolic_symbol v) bs c hc
  simpa only [isSymbolic, Bool.and_eq_true, decide_eq_true_eq, bne_iff_ne, Bool.not_eq_true']
    using hsymbolic

theorem decode_symbols (bs : Bytes) : decode (symbols bs) = .ok bs := by
  rw [decode, symbols, decode_encode isReadable_crypt]
  rfl

theorem length_symbols (bs : Bytes) : (symbols bs).length = (bs.length * 4 + 2) / 3 := by
  rw [symbols, List.length_map, length_encode]

theorem length_digest (cost : Nat) (salt : Bytes) (password : String) :
    (digest cost salt password).length = 23 := by
  rfl

/-- The last part of a hash. -/
def lastPart (salt digest : Bytes) : List Char :=
  encode crypt salt ++ encode crypt digest

theorem forall_mem_lastPart (salt digest : Bytes) :
    ∀ c ∈ lastPart salt digest, (c.toNat < 0x80 ∧ c ≠ '$') ∧ isContinuation (byte c) = false := by
  rw [lastPart, List.forall_mem_append]
  exact ⟨isSymbolic_encode salt, isSymbolic_encode digest⟩

theorem encode_lastPart (salt digest : Bytes) :
    Utf8.encode (String.ofList (lastPart salt digest)) = symbols salt ++ symbols digest := by
  have hascii : ∀ c ∈ lastPart salt digest, c.toNat < 0x80 :=
    fun c hc => (forall_mem_lastPart salt digest c hc).1.1
  rw [Utf8.encode_ofList, Utf8.bytes_ascii hascii, lastPart, List.map_append]
  rfl

theorem lastPart_ne_nil {salt : Bytes} (hsalt : salt.length = 16) (digest : Bytes) :
    lastPart salt digest ≠ [] := by
  intro hnil
  have hlength := congrArg List.length hnil
  rw [lastPart, List.length_append, length_encode, hsalt, List.length_nil] at hlength
  omega

theorem head?_symbols (bs : Bytes) : (symbols bs).head?.any isContinuation = false := by
  rw [symbols, List.head?_map, Option.any_map]
  cases hhead : (encode crypt bs).head? with
  | none => rfl
  | some c => exact (isSymbolic_encode bs c (List.mem_of_head? hhead)).2

theorem splitAt_hash {cost rest : List Char} (hcost : '$' ∉ cost) (hrest : '$' ∉ rest) :
    splitAt '$' ('$' :: '2' :: 'b' :: '$' :: (cost ++ '$' :: rest)) =
      [[], ['2', 'b'], cost, rest] := by
  calc splitAt '$' ('$' :: '2' :: 'b' :: '$' :: (cost ++ '$' :: rest))
      = splitAt '$' ([] ++ '$' :: (['2', 'b'] ++ '$' :: (cost ++ '$' :: rest))) := rfl
    _ = [] :: ['2', 'b'] :: cost :: splitAt '$' rest := by
      rw [splitAt_append (by decide), splitAt_append (by decide), splitAt_append hcost]
    _ = [[], ['2', 'b'], cost, rest] := by
      rw [splitAt_of_notMem hrest]

/-- The cost in two digits. -/
def costChars (cost : Nat) : List Char :=
  List.replicate (2 - (Nat.toDigits 10 cost).length) '0' ++ Nat.toDigits 10 cost

theorem costChars_facts {cost : Nat} (hleast : leastCost ≤ cost) (hmost : cost ≤ greatestCost) :
    '$' ∉ costChars cost ∧ (costChars cost).isEmpty = false ∧
      unsigned? (Nat.pow 2 32) (String.ofList (costChars cost)) = some cost := by
  rw [unsigned?, String.toList_ofList]
  rw [leastCost] at hleast
  rw [greatestCost] at hmost
  interval_cases cost <;> decide

theorem checkCost_eq_ok_iff {cost : Nat} :
    checkCost cost = .ok () ↔ leastCost ≤ cost ∧ cost ≤ greatestCost := by
  rw [checkCost]
  split
  · rename_i h
    simp [h]
  · rename_i h
    simp [h]

theorem hash_eq_ok_iff {salt : Bytes} {cost : Nat} {password passwordHash : String} :
    hash salt cost password = .ok passwordHash ↔
      (leastCost ≤ cost ∧ cost ≤ greatestCost) ∧ passwordHash =
        String.ofList ('$' :: '2' :: 'b' :: '$' ::
          (costChars cost ++ '$' :: lastPart salt (digest cost salt password))) := by
  rw [← checkCost_eq_ok_iff, hash]
  cases hcost : checkCost cost with
  | error e => simp [Bind.bind, Except.bind]
  | ok _ =>
      simp only [Bind.bind, Except.bind, pure, Except.pure, Except.ok.injEq, true_and, costChars,
        lastPart]
      rw [eq_comm]
      simp

theorem parts?_hash {salt : Bytes} (hsalt : salt.length = 16) {cost : Nat}
    {password passwordHash : String} (h : hash salt cost password = .ok passwordHash) :
    parts? passwordHash =
      .ok ⟨cost, symbols salt, symbols (digest cost salt password)⟩ := by
  obtain ⟨⟨hleast, hmost⟩, rfl⟩ := hash_eq_ok_iff.mp h
  obtain ⟨hcost, hne, hnumber⟩ := costChars_facts hleast hmost
  have hdollar : '$' ∉ lastPart salt (digest cost salt password) :=
    fun hmem => (forall_mem_lastPart _ _ _ hmem).1.2 rfl
  have hfields : ([[], ['2', 'b'], costChars cost, lastPart salt (digest cost salt password)].filter
      (!·.isEmpty)).map String.ofList = [String.ofList ['2', 'b'], String.ofList (costChars cost),
        String.ofList (lastPart salt (digest cost salt password))] := by
    have hlast : (lastPart salt (digest cost salt password)).isEmpty = false := by
      simpa using lastPart_ne_nil hsalt _
    simp [hne, hlast]
  have hversion : versions.contains (String.ofList ['2', 'b']) = true := by decide
  have hleft : (symbols salt).length = 22 := by rw [length_symbols, hsalt]
  have hright : (symbols (digest cost salt password)).length = 31 := by
    rw [length_symbols, length_digest]
  rw [parts?, String.toList_ofList, splitAt_hash hcost hdollar, hfields]
  simp only [hversion, hnumber, encode_lastPart, List.drop_left' hleft, List.take_left' hleft,
    head?_symbols, List.length_append, hleft, hright]
  rfl

/-- To compare a password with a hash is to compare digests. -/
theorem verify_hash {salt : Bytes} (hsalt : salt.length = 16) {cost : Nat}
    {password passwordHash : String} (h : hash salt cost password = .ok passwordHash)
    (given : String) :
    verify given passwordHash = .ok (digest cost salt given == digest cost salt password) := by
  have hcost : checkCost cost = .ok () := checkCost_eq_ok_iff.mpr (hash_eq_ok_iff.mp h).1
  rw [verify, parts?_hash hsalt h]
  simp only [Bind.bind, Except.bind, decode_symbols, hcost]
  rfl

end Bcrypt

end Weblog
