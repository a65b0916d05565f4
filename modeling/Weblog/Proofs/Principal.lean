import Mathlib.Control.Monad.Basic
import Weblog.Principal

namespace Weblog

open Text

theorem Text.dropEndWhile_eq_self {p : α → Bool} {l : List α} (h : ∀ a ∈ l, p a = false) :
    dropEndWhile p l = l := by
  induction l with
  | nil => rfl
  | cons a rest ih =>
      obtain ⟨ha, hrest⟩ := List.forall_mem_cons.mp h
      rw [dropEndWhile, ih hrest]
      cases rest with
      | nil => simp [ha]
      | cons b kept => rfl

theorem Text.trim_eq_self {cs : List Char} (h : ∀ c ∈ cs, isBlank c = false) : trim cs = cs := by
  have hstart : cs.dropWhile isBlank = cs := by
    cases cs with
    | nil => rfl
    | cons c rest => simp [List.dropWhile, h c (List.mem_cons_self)]
  rw [trim, hstart, dropEndWhile_eq_self h]

namespace Principal

variable {service : TokenService} {now : Nat} {value token : String} {values : List String}
  {claims : Claims}

/-- A character that is allowed in a header and is not cut off at its end. -/
def isTokenChar (c : Char) : Bool :=
  isHeaderChar c && !isBlank c

theorem token?_append (hne : token ≠ "") (hchars : token.toList.all isTokenChar = true) :
    token? (scheme ++ token) = .ok token := by
  have hscheme : scheme.toList.all isHeaderChar = true := by decide
  have hheader : token.toList.all isHeaderChar = true := by
    refine List.all_eq_true.mpr fun c hc => ?_
    exact (Bool.and_eq_true_iff.mp (List.all_eq_true.mp hchars c hc)).1
  have htrim : trim token.toList = token.toList := by
    refine trim_eq_self fun c hc => ?_
    simpa using (Bool.and_eq_true_iff.mp (List.all_eq_true.mp hchars c hc)).2
  have hcut : (scheme ++ token).toList.drop scheme.length = token.toList := by
    rw [String.toList_append, ← String.length_toList, List.drop_left]
  have hprefix : scheme.toList.isPrefixOf (scheme ++ token).toList = true := by
    rw [String.toList_append, List.isPrefixOf_iff_prefix]
    exact List.prefix_append _ _
  have hall : (scheme ++ token).toList.all isHeaderChar = true := by
    rw [String.toList_append, List.all_append, hscheme, hheader]
    rfl
  rw [token?]
  simp only [hall, hprefix, hcut, htrim]
  cases hcs : token.toList with
  | nil => exact absurd (String.toList_eq_nil_iff.mp hcs) hne
  | cons c rest => simp [← hcs]

theorem ofHeaders_of_verify (htoken : token? value = .ok token)
    (hverify : service.verify now token = .ok claims) :
    ofHeaders service now (value :: values) = .ok ⟨claims.userId, claims.username, token⟩ := by
  simp only [ofHeaders, htoken, hverify, Bind.bind, Except.bind]

theorem ofHeaders_eq_ok {p : Principal} (h : ofHeaders service now values = .ok p) :
    ∃ value token claims, values.head? = some value ∧ token? value = .ok token ∧
      service.verify now token = .ok claims ∧ p = ⟨claims.userId, claims.username, token⟩ := by
  cases values with
  | nil => exact nomatch h
  | cons value rest =>
      cases htoken : token? value with
      | error e =>
          rw [ofHeaders, htoken] at h
          exact nomatch h
      | ok token =>
          simp only [ofHeaders, htoken, Bind.bind, Except.bind] at h
          cases hverify : service.verify now token with
          | error e =>
              rw [hverify] at h
              exact nomatch h
          | ok claims =>
              rw [hverify] at h
              exact ⟨value, token, claims, rfl, htoken, hverify, (Except.ok.inj h).symm⟩

end Principal

namespace Sample

/-- A token that is issued to `alice` as the clock begins. -/
def token : String :=
  "eyJ0eXAiOiJKV1QiLCJhbGciOiJIUzI1NiJ9." ++
  "eyJ1c2VyX2lkIjoxLCJ1c2VybmFtZSI6ImFsaWNlIiwiaWF0IjowLCJuYmYiOjAsImV4cCI6MzYwMCwiaXNzIjoiY29u" ++
  "ZHVpdC1hcGkiLCJzdWIiOiJ1c2VyOjEifQ.4IujZm_Y6LMG-5gYQteNEuO0-hH_I7cpcVyteJEn30w"

theorem isTokenChar_token : token.toList.all Principal.isTokenChar = true := by
  have hliteral : ∀ cs, cs.all Principal.isTokenChar = true →
      (String.ofList cs).toList.all Principal.isTokenChar = true := by simp
  have happend : ∀ s t : String, s.toList.all Principal.isTokenChar = true →
      t.toList.all Principal.isTokenChar = true →
      (s ++ t).toList.all Principal.isTokenChar = true := by simp +contextual
  exact happend _ _ (happend _ _ (hliteral _ (by decide)) (hliteral _ (by decide)))
    (hliteral _ (by decide))

theorem verify_token : TokenService.verify ⟨"secret", 3600⟩ 0 token =
    .ok ⟨1, "alice", 0, 0, 3600, "conduit-api", "user:1"⟩ := by
  decide +kernel

theorem ofHeaders_token :
    Principal.ofHeaders ⟨"secret", 3600⟩ 0 ["Token " ++ token] = .ok ⟨1, "alice", token⟩ :=
  Principal.ofHeaders_of_verify (Principal.token?_append (by decide) isTokenChar_token)
    verify_token

end Sample

end Weblog
