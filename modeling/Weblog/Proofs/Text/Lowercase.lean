import Weblog.Proofs.Text.Ascii
import Weblog.Text.Blank
import Weblog.Text.Lowercase

namespace Weblog.Text

/-- The character beyond ASCII with a letter of ASCII for its lowercase form. -/
def kelvinSign : Char := '\u212a'

/-- The character beyond ASCII whose lowercase form begins with a letter of ASCII. -/
def dottedI : Char := '\u0130'

set_option maxRecDepth 4000 in
theorem caseRuns_images : ∀ run ∈ caseRuns,
    (run.image + (run.last - run.first) < 0xD800 ∨
      0xE000 ≤ run.image ∧ run.image + (run.last - run.first) < 0x110000) ∧
    (run.image < 0x80 → run.first = kelvinSign.toNat ∧ run.last = kelvinSign.toNat) := by
  have hall : (caseRuns.all fun run =>
      (run.image + (run.last - run.first) < 0xD800 ||
        0xE000 ≤ run.image && run.image + (run.last - run.first) < 0x110000) &&
      (0x80 ≤ run.image || run.first = kelvinSign.toNat && run.last = kelvinSign.toNat)) =
        true := by
    decide
  intro run hrun
  have hthis := List.all_eq_true.mp hall run hrun
  simp only [Bool.and_eq_true, Bool.or_eq_true, decide_eq_true_eq] at hthis
  exact ⟨hthis.1, fun hless => hthis.2.resolve_left (Nat.not_le.mpr hless)⟩

set_option maxRecDepth 4000 in
theorem caseRuns_not_blank : ∀ run ∈ caseRuns, ∀ n ∈ blankCodes,
    n < run.image ∨ run.image + (run.last - run.first) < n := by
  have hall : (caseRuns.all fun run => blankCodes.all fun n =>
      n < run.image || run.image + (run.last - run.first) < n) = true := by
    decide
  intro run hrun n hn
  have hthis := List.all_eq_true.mp (List.all_eq_true.mp hall run hrun) n hn
  simpa only [Bool.or_eq_true, decide_eq_true_eq] using hthis

theorem lowerChar_kelvinSign : lowerChar kelvinSign = ['k'] := by
  decide

theorem lowerChar_dottedI : lowerChar dottedI = ['i', '\u0307'] := by
  decide

theorem bounds_of_holds {run : CaseRun} {n : Nat} (h : run.holds n = true) :
    run.first ≤ n ∧ n ≤ run.last := by
  simp only [CaseRun.holds, Bool.and_eq_true, decide_eq_true_eq] at h
  exact h.1

theorem toNat_lower {run : CaseRun} {n : Nat} (hrun : run ∈ caseRuns) (h : run.holds n = true) :
    (Char.ofNat (run.lower n)).toNat = run.lower n := by
  obtain ⟨hfirst, hlast⟩ := bounds_of_holds h
  have hvalid : (run.lower n).isValidChar := by
    rw [CaseRun.lower]
    rcases (caseRuns_images run hrun).1 with hlow | ⟨hhigh, hmost⟩
    · exact .inl (by omega)
    · exact .inr ⟨by omega, by omega⟩
  rw [Char.ofNat, dif_pos hvalid]
  rfl

theorem lowerChar_of_notAscii {c : Char} (hc : 0x80 ≤ c.toNat) :
    c = dottedI ∨ lowerChar c = [c] ∨
      ∃ run ∈ caseRuns, run.holds c.toNat = true ∧
        lowerChar c = [Char.ofNat (run.lower c.toNat)] := by
  by_cases hdotted : c = '\u0130'
  · exact .inl hdotted
  rw [lowerChar, if_neg (Nat.not_lt.mpr hc), if_neg hdotted]
  cases hfind : caseRuns.find? (·.holds c.toNat) with
  | none => exact .inr (.inl rfl)
  | some run =>
      have hrun := List.mem_of_find?_eq_some hfind
      exact .inr (.inr ⟨run, hrun, by simpa using List.find?_some hfind, rfl⟩)

theorem lowerChar_cases {c : Char} (hc : 0x80 ≤ c.toNat) :
    c = dottedI ∨ lowerChar c = [c] ∨
      ∃ run ∈ caseRuns, (run.first ≤ c.toNat ∧ c.toNat ≤ run.last) ∧
        ∃ d, lowerChar c = [d] ∧ d.toNat = run.image + (c.toNat - run.first) := by
  refine (lowerChar_of_notAscii hc).imp_right (Or.imp_right ?_)
  rintro ⟨run, hrun, hholds, hlower⟩
  exact ⟨run, hrun, bounds_of_holds hholds, _, hlower, toNat_lower hrun hholds⟩

theorem eq_kelvinSign_of_lowerChar {c : Char} (hc : 0x80 ≤ c.toNat)
    (h : ∀ d ∈ lowerChar c, d.toNat < 0x80) : c = kelvinSign := by
  rcases lowerChar_cases hc with rfl | hsame | ⟨run, hrun, ⟨hfirst, hlast⟩, d, hd, hcode⟩
  · rw [lowerChar_dottedI] at h
    exact absurd (h '\u0307' (by decide)) (by decide)
  · rw [hsame] at h
    exact absurd (h c (List.mem_singleton_self c)) (Nat.not_lt.mpr hc)
  · have hascii := h d (by rw [hd]; exact List.mem_singleton_self d)
    obtain ⟨hleast, hmost⟩ := (caseRuns_images run hrun).2 (by omega)
    exact Char.toNat_inj.mp (by omega)

/-- Beyond ASCII and white space, all characters but two stay there in lowercase. -/
theorem not_ascii_of_mem_lowerChar {c : Char} (hc : 0x80 ≤ c.toNat) (hblank : isBlank c = false)
    (hkelvin : c ≠ kelvinSign) (hdotted : c ≠ dottedI) :
    ∀ d ∈ lowerChar c, 0x80 ≤ d.toNat ∧ isBlank d = false := by
  intro d hd
  rcases (lowerChar_cases hc).resolve_left hdotted with
    hsame | ⟨run, hrun, ⟨hfirst, hlast⟩, e, he, hcode⟩
  · rw [hsame, List.mem_singleton] at hd
    rw [hd]
    exact ⟨hc, hblank⟩
  · rw [he, List.mem_singleton] at hd
    rw [hd]
    constructor
    · apply Nat.le_of_not_lt
      intro hascii
      obtain ⟨hleast, hmost⟩ := (caseRuns_images run hrun).2 (by omega)
      exact hkelvin (Char.toNat_inj.mp (by omega))
    · rw [isBlank, Bool.eq_false_iff]
      intro hcontains
      have hout := caseRuns_not_blank run hrun _ (List.contains_iff_mem.mp hcontains)
      omega

/-- No lowercase form along the first run is held by the other one. -/
def CaseRun.misses (run other : CaseRun) : Bool :=
  Nat.blt (run.lower run.last) other.first || Nat.blt other.last run.image ||
    (other.step == 2 && (run.step == 2 || run.first == run.last) &&
      (run.image + other.first) % 2 == 1)

set_option maxRecDepth 4000 in
theorem caseRuns_miss : ∀ run ∈ caseRuns, (∀ other ∈ caseRuns, run.misses other = true) ∧
    (dottedI.toNat < run.image ∨ run.lower run.last < dottedI.toNat) := by
  have hall : (caseRuns.all fun run => caseRuns.all run.misses &&
      (Nat.blt dottedI.toNat run.image || Nat.blt (run.lower run.last) dottedI.toNat)) = true := by
    decide +kernel
  intro run hrun
  have hthis := List.all_eq_true.mp hall run hrun
  simp only [Bool.and_eq_true, Bool.or_eq_true, List.all_eq_true] at hthis
  exact ⟨hthis.1, hthis.2.imp Nat.le_of_ble_eq_true Nat.le_of_ble_eq_true⟩

theorem CaseRun.holds_lower_eq_false {run other : CaseRun} {n : Nat}
    (hmisses : run.misses other = true) (h : run.holds n = true) :
    other.holds (run.lower n) = false := by
  simp only [CaseRun.holds, Bool.and_eq_true, decide_eq_true_eq, beq_iff_eq] at h
  obtain ⟨⟨hfirst, hlast⟩, hstep⟩ := h
  rw [CaseRun.misses, Bool.or_eq_true, Bool.or_eq_true, Bool.and_eq_true, Bool.and_eq_true,
    Bool.or_eq_true, beq_iff_eq, beq_iff_eq, beq_iff_eq, beq_iff_eq] at hmisses
  simp only [CaseRun.lower] at hmisses ⊢
  rw [Bool.eq_false_iff]
  simp only [CaseRun.holds, ne_eq, Bool.and_eq_true, decide_eq_true_eq, beq_iff_eq]
  rintro ⟨⟨hleast, hmost⟩, hmod⟩
  rcases hmisses with (hless | hmore) | ⟨⟨hother, hrun⟩, hodd⟩
  · have := Nat.le_of_ble_eq_true hless
    omega
  · have := Nat.le_of_ble_eq_true hmore
    omega
  · rw [hother] at hmod
    rcases hrun with htwo | hsame
    · rw [htwo] at hstep
      omega
    · omega

theorem lowerChar_of_mem_lowerChar {c d : Char} (hd : d ∈ lowerChar c) : lowerChar d = [d] := by
  by_cases hc : c.toNat < 0x80
  · rw [lowerChar, if_pos hc, List.mem_singleton] at hd
    have hascii : c.toLower.toNat < 0x80 := by
      rcases toLower_cases c with h | ⟨-, hmost, h⟩
      · rwa [h]
      · omega
    rw [hd, lowerChar, if_pos hascii, toLower_toLower]
  rcases lowerChar_of_notAscii (Nat.le_of_not_lt hc) with rfl | hlower | ⟨run, hrun, hholds, hlower⟩
  · rw [lowerChar_dottedI] at hd
    simp only [List.mem_cons, List.not_mem_nil, or_false] at hd
    rcases hd with rfl | rfl
    · decide
    · decide
  · rw [hlower, List.mem_singleton] at hd
    rw [hd, hlower]
  · rw [hlower, List.mem_singleton] at hd
    have hcode := toNat_lower hrun hholds
    rw [← hd] at hcode
    obtain ⟨hmiss, hdotted⟩ := caseRuns_miss run hrun
    have hnone : caseRuns.find? (·.holds d.toNat) = none := by
      rw [List.find?_eq_none]
      intro other hother
      rw [hcode, CaseRun.holds_lower_eq_false (hmiss other hother) hholds]
      exact Bool.false_ne_true
    have hne : d ≠ '\u0130' := by
      rintro rfl
      have hbounds := bounds_of_holds hholds
      have hdot : dottedI.toNat = run.lower c.toNat := hcode
      simp only [CaseRun.lower] at hdotted hdot
      omega
    by_cases hascii : d.toNat < 0x80
    · have hall : ∀ e ∈ lowerChar c, e.toNat < 0x80 := by
        rw [hlower, ← hd]
        simpa using hascii
      obtain rfl := eq_kelvinSign_of_lowerChar (Nat.le_of_not_lt hc) hall
      rw [lowerChar_kelvinSign, ← hd] at hlower
      rw [← (List.cons.inj hlower).1]
      decide
    · rw [lowerChar, if_neg hascii, if_neg hne, hnone]

theorem flatMap_lowerChar_lowerChar (c : Char) : (lowerChar c).flatMap lowerChar = lowerChar c := by
  have hself : ∀ cs : List Char, (∀ d ∈ cs, lowerChar d = [d]) → cs.flatMap lowerChar = cs := by
    intro cs hcs
    rw [List.flatMap_congr hcs, List.flatMap_singleton']
  exact hself _ fun d hd => lowerChar_of_mem_lowerChar hd

end Weblog.Text
