import Weblog.Proofs.Principal
import Weblog.Proofs.Text.Base64
import Weblog.Proofs.Text.Split
import Weblog.Proofs.Text.Utf8
import Weblog.Token

namespace Weblog

open Json (byte)

namespace Token

open Text

/-- The symbols of the bytes, which stand for themselves in a token. -/
def symbols (bs : Bytes) : Bytes :=
  (Base64.encode Base64.url bs).map byte

/-- The character may stand in a part of a token. -/
def isSymbolic (c : Char) : Bool :=
  c.toNat < 0x80 && byte c != byte '.' && Principal.isTokenChar c

theorem isSymbolic_symbol (v : Nat) : isSymbolic (Base64.url.symbol v) = true := by
  have hliteral : ∀ cs : List Char, cs.all isSymbolic = true →
      (String.ofList cs).toList.all isSymbolic = true := by simp
  have hall : Base64.url.symbols.all isSymbolic = true := hliteral _ (by decide)
  rw [Base64.Alphabet.symbol, List.getD_eq_getElem?_getD]
  cases hsymbol : Base64.url.symbols[v]? with
  | none => decide
  | some c => exact List.all_eq_true.mp hall c (List.mem_of_getElem? hsymbol)

theorem isSymbolic_encode (bs : Bytes) :
    ∀ c ∈ Base64.encode Base64.url bs,
      (c.toNat < 0x80 ∧ byte c ≠ byte '.') ∧ Principal.isTokenChar c = true := by
  intro c hc
  have hsymbolic := Base64.forall_mem_encode (P := fun c => isSymbolic c = true)
    (fun v _ => isSymbolic_symbol v) bs c hc
  simpa only [isSymbolic, Bool.and_eq_true, decide_eq_true_eq, bne_iff_ne] using hsymbolic

theorem bytes_encode (bs : Bytes) : Utf8.bytes (Base64.encode Base64.url bs) = symbols bs :=
  Utf8.bytes_ascii fun c hc => (isSymbolic_encode bs c hc).1.1

theorem decode?_symbols (bs : Bytes) : decode? (symbols bs) = some bs := by
  rw [decode?, symbols, Base64.decode_encode Base64.isReadable_url]
  rfl

theorem not_mem_symbols (bs : Bytes) : byte '.' ∉ symbols bs := by
  intro hmem
  obtain ⟨c, hc, heq⟩ := List.mem_map.mp hmem
  exact (isSymbolic_encode bs c hc).1.2 heq

theorem headerAlgorithm?_header : headerAlgorithm? (Utf8.encode header) = some algorithm := by
  have hliteral : ∀ cs : List Char, headerAlgorithm? (Utf8.bytes cs) = some algorithm →
      headerAlgorithm? (Utf8.encode (String.ofList cs)) = some algorithm := by
    intro cs h
    rwa [Utf8.encode_ofList]
  rw [header]
  exact hliteral _ (by decide)

theorem encode_sign (secret header payload : String) :
    ∃ code, code = Sha256.code (Utf8.encode secret)
        (symbols (Utf8.encode header) ++ byte '.' :: symbols (Utf8.encode payload)) ∧
      Utf8.encode (sign secret header payload) =
        (symbols (Utf8.encode header) ++ byte '.' :: symbols (Utf8.encode payload)) ++
          byte '.' :: symbols code := by
  have htext : Utf8.bytes (Base64.encode Base64.url (Utf8.encode header) ++
      '.' :: Base64.encode Base64.url (Utf8.encode payload)) =
        symbols (Utf8.encode header) ++ byte '.' :: symbols (Utf8.encode payload) := by
    rw [Utf8.bytes_append, Utf8.bytes_cons_ascii (by decide), bytes_encode, bytes_encode]
  refine ⟨_, rfl, ?_⟩
  rw [sign, Utf8.encode_ofList, Utf8.encode_ofList, Utf8.bytes_append,
    Utf8.bytes_cons_ascii (by decide), htext, bytes_encode]

theorem payload?_sign (secret payload : String) :
    payload? secret (sign secret header payload) = some (Utf8.encode payload) := by
  obtain ⟨code, hcode, hencode⟩ := encode_sign secret header payload
  have hsplit : split? (Utf8.encode (sign secret header payload)) =
      some (symbols (Utf8.encode header), symbols (Utf8.encode payload), symbols code) := by
    rw [hencode, split?, splitLast?_append (not_mem_symbols code)]
    simp only [Option.bind_eq_bind, Option.bind_some,
      splitLast?_append (not_mem_symbols (Utf8.encode payload)), Option.pure_def]
  rw [payload?, hsplit]
  simp only [Option.bind_eq_bind, Option.bind_some, decode?_symbols, headerAlgorithm?_header,
    ← hcode, and_self, if_true]

theorem isTokenChar_sign (secret header payload : String) :
    (sign secret header payload).toList.all Principal.isTokenChar = true := by
  have hsymbols : ∀ bs, (Base64.encode Base64.url bs).all Principal.isTokenChar = true := fun bs =>
    List.all_eq_true.mpr fun c hc => (isSymbolic_encode bs c hc).2
  have hpoint : Principal.isTokenChar '.' = true := by decide
  simp only [sign, String.toList_ofList, List.all_append, List.all_cons, hsymbols, hpoint,
    Bool.and_self]

theorem sign_ne_empty (secret header payload : String) : sign secret header payload ≠ "" := by
  intro hempty
  have hnil := congrArg String.toList hempty
  simp [sign, String.toList_ofList] at hnil

end Token

end Weblog
