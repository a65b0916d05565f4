import Mathlib.Data.List.Basic
import Weblog.Domain.Punycode
import Weblog.Proofs.Text.Split

/-!
Text that is written in characters of ASCII and read again. The writer takes the code points in
order and counts the places that it passes; the reader puts each character where a count ends.
-/

namespace Weblog.Domain.Punycode

open Weblog.Text

variable {cs u v : List Char} {c : Char} {basics code m : Nat} {w : Writer} {r₀ r : Reader}

theorem digitValue?_digit {n : Nat} (hn : n < base) : digitValue? (digit n) = some n := by
  have hall : ∀ n : Fin 36, digitValue? (digit n) = some n.val := by decide
  exact hall ⟨n, hn⟩

theorem isLower_or_isDigit_digit {n : Nat} (hn : n < base) :
    (digit n).isLower = true ∨ (digit n).isDigit = true := by
  have hall : ∀ n : Fin 36, (digit n).isLower = true ∨ (digit n).isDigit = true := by decide
  exact hall ⟨n, hn⟩

theorem mem_digits {bias position n : Nat} (hc : c ∈ digits bias position n) :
    ∃ d < base, c = digit d := by
  induction n using Nat.strongRecOn generalizing position with
  | ind n ih =>
      obtain ⟨hpos, hless⟩ := threshold_bounds position bias
      rw [digits] at hc
      split at hc
      · exact ⟨n, by omega, List.mem_singleton.mp hc⟩
      · rename_i hge
        rcases List.mem_cons.mp hc with rfl | hc
        · have := Nat.mod_lt (n - threshold position bias) (Nat.sub_pos_of_lt hless)
          exact ⟨_, by omega, rfl⟩
        · exact ih _ (Nat.lt_of_le_of_lt (Nat.div_le_self _ _) (by omega)) hc

theorem Reader.read_digit {n : Nat} (hn : n < base) (r : Reader) :
    r.read (digit n) =
      if n < threshold r.position r.bias then place { r with index := r.index + n * r.weight }
      else some { r with
        index := r.index + n * r.weight
        weight := r.weight * (base - threshold r.position r.bias)
        position := r.position + base } := by
  rw [Reader.read, digitValue?_digit hn]
  rfl

theorem foldlM_read_digits (n : Nat) (r : Reader) :
    (digits r.bias r.position n).foldlM Reader.read r =
      Reader.place { r with index := r.index + n * r.weight } := by
  induction n using Nat.strongRecOn generalizing r with
  | ind n ih =>
      obtain ⟨hpos, hless⟩ := threshold_bounds r.position r.bias
      rw [digits]
      split
      · rename_i hn
        rw [List.foldlM_cons, Reader.read_digit (by omega), if_pos hn]
        exact Option.bind_fun_some _
      · rename_i hn
        -- the first digit takes the remainder, and the others the quotient, with more weight
        generalize ht : threshold r.position r.bias = t at *
        have hmod := Nat.mod_lt (n - t) (Nat.sub_pos_of_lt hless)
        rw [List.foldlM_cons, Reader.read_digit (by omega), ht, if_neg (by omega)]
        have hrest := ih ((n - t) / (base - t))
          (Nat.lt_of_le_of_lt (Nat.div_le_self _ _) (by omega))
          { r with
            index := r.index + (t + (n - t) % (base - t)) * r.weight
            weight := r.weight * (base - t)
            position := r.position + base }
        refine hrest.trans ?_
        have hsum : t + (n - t) % (base - t) + (n - t) / (base - t) * (base - t) = n := by
          have := Nat.mod_add_div' (n - t) (base - t)
          omega
        have hindex : r.index + (t + (n - t) % (base - t)) * r.weight +
            (n - t) / (base - t) * (r.weight * (base - t)) = r.index + n * r.weight := by
          conv => rhs; rw [← hsum, Nat.add_mul]
          rw [Nat.mul_comm r.weight, ← Nat.mul_assoc, Nat.add_assoc]
        simp only [Reader.place, hindex]

/-- The reader has come to the end of what is written, and has as many characters as the writer
counts. -/
structure Reads (r₀ : Reader) (basics : Nat) (w : Writer) (r : Reader) : Prop where
  reads : w.out.foldlM Reader.read r₀ = some r
  placed : w.placed = r.out.length
  bias : w.bias = r.bias
  start : r.start = r.index
  least : basics ≤ w.placed
  first : r.start = 0 ↔ w.placed = basics
  weight : r.weight = 1
  position : r.position = base

/-- In the pass for the code point `m`, the writer has passed over `u` and comes to `v`; the
reader would go to the same place. -/
structure Passed (m : Nat) (u v : List Char) (w : Writer) (r : Reader) : Prop where
  out : r.out = u.filter (·.toNat ≤ m) ++ v.filter (·.toNat < m)
  count : w.delta + r.index + r.code * (w.placed + 1) =
    m * (w.placed + 1) + (u.filter (·.toNat ≤ m)).length
  code : r.code ≤ m

theorem Reads.recount (h : Reads r₀ basics w r) (delta : Nat) :
    Reads r₀ basics { w with delta := delta } r :=
  ⟨h.reads, h.placed, h.bias, h.start, h.least, h.first, h.weight, h.position⟩

theorem char?_toNat (c : Char) : char? c.toNat = some c := by
  have hvalid : c.toNat.isValidChar := c.valid
  rw [char?, if_pos hvalid, Char.ofNat_toNat]

/-- The reader when `c` has been put at the place `i`. -/
def Reader.putting (c : Char) (i bias : Nat) (r : Reader) : Reader :=
  { out := r.out.take i ++ c :: r.out.drop i
    code := c.toNat
    index := i + 1
    bias := bias
    start := i + 1
    weight := 1
    position := base }

theorem Reads.read_digits {i : Nat} (h : Reads r₀ basics w r) (hcode : r.code ≤ c.toNat)
    (hi : i ≤ w.placed)
    (hcount : w.delta + r.index + r.code * (w.placed + 1) = c.toNat * (w.placed + 1) + i) :
    (digits w.bias base w.delta).foldlM Reader.read r =
      some (r.putting c i (adapt w.delta (w.placed + 1) (w.placed == basics))) := by
  obtain ⟨k, hk⟩ := Nat.exists_eq_add_of_le hcode
  have hindex : r.index + w.delta * r.weight = i + k * (r.out.length + 1) := by
    rw [hk, Nat.add_mul, h.placed] at hcount
    rw [h.weight]
    omega
  have hless : i < r.out.length + 1 := Nat.lt_succ_of_le (h.placed ▸ hi)
  have hdiv : (r.index + w.delta * r.weight) / (r.out.length + 1) = k := by
    rw [hindex, Nat.add_mul_div_right _ _ (Nat.succ_pos _), Nat.div_eq_of_lt hless, Nat.zero_add]
  have hmod : (r.index + w.delta * r.weight) % (r.out.length + 1) = i := by
    rw [hindex, Nat.add_mul_mod_self_right, Nat.mod_eq_of_lt hless]
  have hdelta : r.index + w.delta * r.weight - r.start = w.delta := by
    rw [h.start, h.weight]
    omega
  have hfirst : (r.start == 0) = (w.placed == basics) := by
    rw [Bool.eq_iff_iff, beq_iff_eq, beq_iff_eq]
    exact h.first
  rw [h.bias, ← h.position, foldlM_read_digits]
  simp only [Reader.place, hdiv, hmod, ← hk, char?_toNat, hdelta, hfirst, h.placed]
  rfl

theorem pass_step (h : Reads r₀ basics w r) (hpassed : Passed m u (c :: v) w r) :
    ∃ r, Reads r₀ basics (w.pass basics m c) r ∧ Passed m (u ++ [c]) v (w.pass basics m c) r := by
  obtain ⟨hout, hcount, hcode⟩ := hpassed
  rw [Writer.pass]
  split
  · rename_i hless
    refine ⟨r, h.recount _, ?_, ?_, hcode⟩
    · simp [hout, hless, Nat.le_of_lt hless]
    · simp only [List.filter_append, List.length_append, Nat.le_of_lt hless, decide_true,
        List.filter_cons_of_pos, List.filter_nil, List.length_singleton]
      omega
  split
  · rename_i heq
    have hi : (u.filter (·.toNat ≤ m)).length ≤ w.placed := by
      rw [h.placed, hout, List.length_append]
      exact Nat.le_add_right _ _
    have hplace : (u.filter (·.toNat ≤ m)).length ≤ r.out.length := h.placed ▸ hi
    have hdigits := h.read_digits (c := c) (heq ▸ hcode) hi (heq ▸ hcount)
    refine ⟨r.putting c (u.filter (·.toNat ≤ m)).length _,
      ⟨?_, ?_, rfl, rfl, Nat.le_succ_of_le h.least, ?_, rfl, rfl⟩, ?_, ?_, ?_⟩
    · rw [List.foldlM_append, h.reads]
      exact hdigits
    · simp only [Reader.putting, List.length_append, List.length_take, List.length_cons,
        List.length_drop, h.placed]
      omega
    · have := h.least
      simp only [Reader.putting]
      omega
    · simp [Reader.putting, hout, heq]
    · simp [Reader.putting, heq]
      omega
    · exact Nat.le_of_eq heq
  · rename_i hge hne
    have hmore : ¬ c.toNat ≤ m := by omega
    refine ⟨r, h, ?_, ?_, hcode⟩
    · simp [hout, hge, hmore]
    · simpa [hmore] using hcount

theorem pass_all (h : Reads r₀ basics w r) (hpassed : Passed m u v w r) :
    ∃ r, Reads r₀ basics (v.foldl (Writer.pass basics m) w) r ∧
      Passed m (u ++ v) [] (v.foldl (Writer.pass basics m) w) r := by
  induction v generalizing u w r with
  | nil => exact ⟨r, h, by rwa [List.append_nil]⟩
  | cons c v ih =>
      obtain ⟨r', h', hpassed'⟩ := pass_step h hpassed
      obtain ⟨r'', h'', hpassed''⟩ := ih h' hpassed'
      exact ⟨r'', h'', by rwa [List.append_assoc] at hpassed''⟩

/-- Between the passes for `code` and for `m`, a turn over all places is counted for each code
point that does not occur. -/
theorem Passed.skip (h : Passed code [] cs w r) (hm : code ≤ m)
    (hbetween : ∀ c ∈ cs, code ≤ c.toNat → m ≤ c.toNat) :
    Passed m [] cs { w with delta := w.delta + (m - code) * (w.placed + 1) } r := by
  obtain ⟨hout, hcount, hcode⟩ := h
  refine ⟨?_, ?_, Nat.le_trans hcode hm⟩
  · refine hout.trans (congrArg _ (List.filter_congr fun c hc => ?_))
    have := hbetween c hc
    rw [decide_eq_decide]
    omega
  · obtain ⟨k, rfl⟩ := Nat.exists_eq_add_of_le hm
    simp only [List.filter_nil, List.length_nil, Nat.add_sub_cancel_left] at hcount ⊢
    rw [Nat.add_mul code k]
    omega

theorem Passed.next (h : Passed m cs [] w r) (hplaced : w.placed = r.out.length) :
    Passed (m + 1) [] cs { w with delta := w.delta + 1 } r := by
  obtain ⟨hout, hcount, hcode⟩ := h
  rw [List.filter_nil, List.append_nil] at hout
  refine ⟨?_, ?_, Nat.le_succ_of_le hcode⟩
  · rw [hout]
    simp only [Nat.lt_succ_iff, List.filter_nil, List.nil_append]
  · rw [← hout, ← hplaced] at hcount
    simp only [List.filter_nil, List.length_nil, Nat.add_mul]
    omega

theorem write_all {codes : List Nat} (hsorted : codes.Pairwise (· < ·))
    (hleast : ∀ n ∈ codes, code ≤ n) (hcodes : ∀ c ∈ cs, code ≤ c.toNat → c.toNat ∈ codes)
    (h : Reads r₀ basics w r) (hpassed : Passed code [] cs w r) :
    ∃ r, Reads r₀ basics (Writer.write cs basics code codes w) r ∧ r.out = cs := by
  induction codes generalizing code w r with
  | nil =>
      refine ⟨r, h, hpassed.out.trans ?_⟩
      rw [List.filter_nil, List.nil_append, List.filter_eq_self]
      intro c hc
      exact decide_eq_true (Nat.lt_of_not_le fun hge => nomatch hcodes c hc hge)
  | cons m codes ih =>
      obtain ⟨hm, hsorted⟩ := List.pairwise_cons.mp hsorted
      have hcode := hleast m List.mem_cons_self
      have hskip := hpassed.skip hcode fun c hc hge => by
        rcases List.mem_cons.mp (hcodes c hc hge) with heq | hmem
        · exact Nat.le_of_eq heq.symm
        · exact Nat.le_of_lt (hm _ hmem)
      obtain ⟨r', h', hpassed'⟩ := pass_all (h.recount _) hskip
      rw [List.nil_append] at hpassed'
      refine ih hsorted hm (fun c hc hge => ?_) (h'.recount _) (hpassed'.next h'.placed)
      exact (List.mem_cons.mp (hcodes c hc (by omega))).resolve_left (by omega)

theorem nodup_eraseDups (l : List Nat) : l.eraseDups.Nodup := by
  cases l with
  | nil => simp
  | cons n l =>
      rw [List.eraseDups_cons, List.nodup_cons]
      refine ⟨?_, nodup_eraseDups _⟩
      simp [List.mem_eraseDups]
termination_by l.length
decreasing_by exact Nat.lt_succ_of_le (List.length_filter_le _ _)

theorem mem_extendedCodes {n : Nat} :
    n ∈ extendedCodes cs ↔ ∃ c ∈ cs, firstCode ≤ c.toNat ∧ c.toNat = n := by
  simp [extendedCodes, List.mem_mergeSort, List.mem_eraseDups, isBasic, and_assoc]

theorem extendedCodes_sorted (cs : List Char) : (extendedCodes cs).Pairwise (· < ·) := by
  have hle : (extendedCodes cs).Pairwise fun a b => decide (a ≤ b) = true :=
    List.pairwise_mergeSort (by simp; omega) (by simp; omega) _
  have hne : (extendedCodes cs).Nodup :=
    (List.mergeSort_perm _ _).nodup_iff.mpr (nodup_eraseDups _)
  refine hle.imp₂ (fun a b hab hne => ?_) hne
  exact Nat.lt_of_le_of_ne (of_decide_eq_true hab) hne

theorem mem_pass (m : Nat) (v : List Char) (hw : ∀ c ∈ w.out, ∃ d < base, c = digit d) :
    ∀ c ∈ (v.foldl (Writer.pass basics m) w).out, ∃ d < base, c = digit d := by
  induction v generalizing w with
  | nil => exact hw
  | cons e v ih =>
      apply ih
      rw [Writer.pass]
      split
      · exact hw
      split
      · intro c hc
        rcases List.mem_append.mp hc with hc | hc
        · exact hw c hc
        · exact mem_digits hc
      · exact hw

theorem mem_write {codes : List Nat} (hw : ∀ c ∈ w.out, ∃ d < base, c = digit d) :
    ∀ c ∈ (Writer.write cs basics code codes w).out, ∃ d < base, c = digit d := by
  induction codes generalizing code w with
  | nil => exact hw
  | cons m codes ih => exact ih (mem_pass m cs hw)

theorem encode_eq (cs : List Char) : ∃ out,
    encode cs = (if (cs.filter isBasic).isEmpty then [] else cs.filter isBasic ++ ['-']) ++ out ∧
    (∀ c ∈ out, ∃ d < base, c = digit d) ∧
    ∃ r, out.foldlM Reader.read ⟨cs.filter isBasic, firstCode, 0, firstBias, 0, 1, base⟩ = some r ∧
      r.position = base ∧ r.out = cs := by
  have hpassed : Passed firstCode [] cs ⟨[], 0, firstBias, (cs.filter isBasic).length⟩
      ⟨cs.filter isBasic, firstCode, 0, firstBias, 0, 1, base⟩ := by
    refine ⟨rfl, ?_, Nat.le_refl _⟩
    simp
  obtain ⟨r, hreads, hout⟩ := write_all (extendedCodes_sorted cs)
    (fun n hn => by
      obtain ⟨c, -, hc, rfl⟩ := mem_extendedCodes.mp hn
      exact hc)
    (fun c hc hge => mem_extendedCodes.mpr ⟨c, hc, hge, rfl⟩)
    ⟨rfl, rfl, rfl, rfl, Nat.le_refl _, by simp, rfl, rfl⟩ hpassed
  refine ⟨_, rfl, mem_write ?_, r, hreads.reads, hreads.position, hout⟩
  simp

theorem mem_encode (hc : c ∈ encode cs) :
    (c ∈ cs ∧ isBasic c = true) ∨ c = '-' ∨ ∃ d < base, c = digit d := by
  obtain ⟨out, hencode, hdigits, -⟩ := encode_eq cs
  rw [hencode] at hc
  rcases List.mem_append.mp hc with hc | hc
  · split at hc
    · simp at hc
    · rcases List.mem_append.mp hc with hc | hc
      · exact .inl (List.mem_filter.mp hc)
      · exact .inr (.inl (List.mem_singleton.mp hc))
  · exact .inr (.inr (hdigits c hc))

theorem decode?_encode (cs : List Char) : decode? (encode cs) = some cs := by
  obtain ⟨out, hencode, hdigits, r, hreads, hposition, hout⟩ := encode_eq cs
  have hhyphen : '-' ∉ out := by
    intro hmem
    obtain ⟨d, hd, heq⟩ := hdigits _ hmem
    have hword := isLower_or_isDigit_digit hd
    rw [← heq] at hword
    exact absurd hword (by decide)
  have hbasic : (cs.filter isBasic).all isBasic = true := by simp
  have hsplit : splitLast? '-' out = none := splitLast?_eq_none hhyphen
  rw [hencode, decode?]
  cases hcs : cs.filter isBasic with
  | nil =>
      rw [hcs] at hreads
      simp [hsplit, hreads, hposition, hout]
  | cons b bs =>
      rw [hcs] at hreads hbasic
      have htext : b :: bs ++ ['-'] ++ out = b :: bs ++ '-' :: out := by simp
      simp only [List.isEmpty_cons, Bool.false_eq_true, if_false, htext,
        splitLast?_append hhyphen, hreads, Option.bind_eq_bind, Option.bind_some, hbasic,
        hposition, hout]
      simp

end Weblog.Domain.Punycode
