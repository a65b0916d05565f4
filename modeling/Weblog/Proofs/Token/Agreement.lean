import Weblog.Proofs.Json.Plain
import Weblog.Proofs.Token.Signing

/-!
The three ways to read a token. Who reads all its claims passes over what else the payload has, and
who reads one claim by its name keeps every part of the payload. So they agree on a token exactly if
every other part can be kept.
-/

namespace Weblog

open Json

namespace Json

variable {members : List (String × Bytes)} {name : String}

theorem lastMember?_eq_lookup (honce : members.countP (·.1 == name) ≤ 1) :
    Token.lastMember? members name = members.lookup name := by
  by_cases hkey : ∃ m ∈ members, m.1 = name
  · obtain ⟨m, hm, rfl⟩ := hkey
    rw [lookup_of_mem hm honce, Token.lastMember?]
    refine lookup_of_mem (List.mem_reverse.mpr hm) ?_
    rwa [List.countP_reverse]
  · have hnone : ∀ l : List (String × Bytes), (∀ m ∈ l, m ∈ members) → l.lookup name = none := by
      intro l hl
      apply List.lookup_eq_none_iff.mpr
      intro m hm
      rw [bne_iff_ne]
      rintro rfl
      exact hkey ⟨m, hl m hm, rfl⟩
    rw [Token.lastMember?, hnone _ fun m hm => List.mem_reverse.mp hm, hnone _ fun m hm => hm]

theorem fields?_eq_some {names : List String} {bs : Bytes} {fields : List (Option Bytes)}
    (h : fields? names false bs = some fields) :
    (∃ members, members? bs = some members ∧
        (∀ name ∈ names, members.countP (·.1 == name) ≤ 1) ∧
        fields = names.map fun name => members.lookup name) ∨
      members? bs = none ∧ ∃ items, items? bs = some items ∧ items.length = names.length := by
  rw [fields?] at h
  split at h
  · rename_i members hmembers
    split at h
    · rename_i honce
      refine .inl ⟨members, hmembers, ?_, (Option.some.inj h).symm⟩
      simpa using honce
    · cases h
  · rename_i hmembers
    split at h
    · rename_i items hitems
      split at h
      · rename_i hlength
        exact .inr ⟨hmembers, items, hitems, by simpa using hlength⟩
      · cases h
    · cases h

end Json

/-- The names of the claims that the service writes. -/
def Claims.names : List String :=
  ["user_id", "username", "iat", "nbf", "exp", "iss", "sub"]

theorem Claims.read?_eq_some {payload : Bytes} {claims : Claims}
    (h : Claims.read? payload = some claims) :
    ∃ user name rest, fields? Claims.names false payload = some (some user :: some name :: rest) ∧
      int? user = some claims.userId ∧ string? name = some claims.username ∧
      ∀ view, some view ∈ some user :: some name :: rest → ∀ depth, isPlain depth view = true := by
  rw [Claims.read?] at h
  obtain ⟨fields, hfields, hmatch⟩ := Option.bind_eq_some_iff.mp h
  split at hmatch
  · rename_i user name iat nbf exp iss sub
    simp only [Option.bind_eq_bind, Option.bind_eq_some_iff, Option.pure_def,
      Option.some.injEq] at hmatch
    obtain ⟨userId, huser, username, hname, issued, hiat, before, hnbf, expires, hexp, issuer, hiss,
      subject, hsub, rfl⟩ := hmatch
    refine ⟨user, name, _, hfields, huser, hname, ?_⟩
    intro view hview depth
    simp only [List.mem_cons, Option.some.injEq, List.not_mem_nil, or_false] at hview
    rcases hview with rfl | rfl | rfl | rfl | rfl | rfl | rfl
    · exact isPlain_of_int? huser depth
    · exact isPlain_of_string? hname depth
    · exact isPlain_of_int? hiat depth
    · exact isPlain_of_int? hnbf depth
    · exact isPlain_of_int? hexp depth
    · exact isPlain_of_string? hiss depth
    · exact isPlain_of_string? hsub depth
  · cases hmatch

namespace Token

variable {secret token : String} {now : ℕ} {α : Type} {read : Bytes → Option α} {a : α}

theorem checked_eq_ok (h : checked secret read now token = .ok a) :
    ∃ payload registered, payload? secret token = some payload ∧
      isDocument payload = true ∧ read payload = some a ∧
      registered? payload = some registered ∧ check now registered = .ok () := by
  rw [checked] at h
  split at h
  · cases h
  rename_i payload hpayload
  split at h
  · cases h
  rename_i a' hread
  split at h
  · cases h
  rename_i registered hregistered
  split at h
  · cases h
  rename_i hcheck
  obtain rfl := Except.ok.inj h
  rw [document?] at hread
  split at hread
  · rename_i hdocument
    exact ⟨payload, registered, hpayload, hdocument, hread, hregistered, hcheck⟩
  · cases hread

/-- What is checked of a token does not depend on who reads its payload. -/
theorem checked_of_registered {payload : Bytes} {registered : Registered}
    (hpayload : payload? secret token = some payload) (hdocument : isDocument payload = true)
    (hregistered : registered? payload = some registered) (hcheck : check now registered = .ok ()) :
    checked secret read now token = (read payload).elim (.error .invalid) .ok := by
  rw [checked, hpayload]
  simp only [document?, hdocument, if_true, hregistered, hcheck]
  cases read payload <;> rfl

/-- A payload with all claims is an object: an array would have as many items as there are claims,
and as many as there are registered ones. -/
theorem exists_members_of_read? {payload : Bytes} {claims : Claims} {registered : Registered}
    (hread : Claims.read? payload = some claims)
    (hregistered : registered? payload = some registered) :
    ∃ members user name, members? payload = some members ∧
      (∀ key ∈ Claims.names, members.countP (·.1 == key) ≤ 1) ∧
      members.lookup "user_id" = some user ∧ int? user = some claims.userId ∧
      members.lookup "username" = some name ∧ string? name = some claims.username ∧
      ∀ m ∈ members, m.1 ∈ Claims.names → ∀ depth, isPlain depth m.2 = true := by
  obtain ⟨user, name, rest, hfields, huser, hname, hplain⟩ := Claims.read?_eq_some hread
  rcases fields?_eq_some hfields with ⟨members, hmembers, honce, heq⟩ | ⟨hnone, items, hitems, hseven⟩
  · have hcons := heq
    simp only [Claims.names, List.map_cons, List.cons.injEq] at hcons
    obtain ⟨hlookupUser, hlookupName, -⟩ := hcons
    refine ⟨members, user, name, hmembers, honce, hlookupUser.symm, huser, hlookupName.symm, hname, ?_⟩
    intro m hm hkey
    apply hplain m.2
    rw [heq, ← lookup_of_mem hm (honce m.1 hkey)]
    exact List.mem_map_of_mem hkey
  · obtain ⟨fields, hfields', -⟩ := Option.bind_eq_some_iff.mp hregistered
    rcases fields?_eq_some hfields' with ⟨members, hmembers, -⟩ | ⟨-, items', hitems', hfive⟩
    · rw [hnone] at hmembers
      cases hmembers
    · rw [hitems] at hitems'
      obtain rfl := Option.some.inj hitems'
      rw [hseven] at hfive
      exact absurd hfive (by decide)

end Token

namespace TokenService

open Token

variable {service : TokenService} {now : ℕ} {token : String} {α : Type} {read : Bytes → Option α}

theorem claim_eq_ok_of_checked {members : List (String × Bytes)} {name : String} {view : Bytes}
    {a : α} (hmembers : checked service.secret plainMembers? now token = .ok members)
    (honce : members.countP (·.1 == name) ≤ 1) (hview : members.lookup name = some view)
    (hread : read view = some a) : service.claim name read now token = .ok a := by
  rw [claim, hmembers]
  simp only [Bind.bind, Except.bind, lastMember?_eq_lookup honce, hview, Option.bind_some, hread]

theorem claim_eq_error_of_checked {e : TokenError} {name : String}
    (h : checked service.secret plainMembers? now token = .error e) :
    service.claim name read now token = .error e := by
  rw [claim, h]
  rfl

theorem claims_of_verify {claims : Claims} (h : service.verify now token = .ok claims) :
    ∃ payload members, payload? service.secret token = some payload ∧
      members? payload = some members ∧
      (∀ m ∈ members, m.1 ∈ Claims.names → ∀ depth, isPlain depth m.2 = true) ∧
      (isPlain 127 payload = true → service.userId now token = .ok claims.userId ∧
        service.username now token = .ok claims.username) ∧
      (isPlain 127 payload = false → service.userId now token = .error .invalid ∧
        service.username now token = .error .invalid) := by
  obtain ⟨payload, registered, hpayload, hdocument, hread, hregistered, hcheck⟩ := checked_eq_ok h
  obtain ⟨members, user, name, hmembers, honce, huser, huserId, hname, husername, hplain⟩ :=
    exists_members_of_read? hread hregistered
  have hchecked : checked service.secret plainMembers? now token =
      (plainMembers? payload).elim (.error .invalid) .ok :=
    checked_of_registered hpayload hdocument hregistered hcheck
  refine ⟨payload, members, hpayload, hmembers, hplain, ?_, ?_⟩
  · intro hkept
    rw [plainMembers?, if_pos hkept, hmembers] at hchecked
    constructor
    · exact claim_eq_ok_of_checked hchecked (honce _ (by decide)) huser huserId
    · exact claim_eq_ok_of_checked hchecked (honce _ (by decide)) hname husername
  · intro hlost
    rw [plainMembers?, if_neg (by rw [hlost]; exact Bool.false_ne_true)] at hchecked
    constructor
    · exact claim_eq_error_of_checked hchecked
    · exact claim_eq_error_of_checked hchecked

end TokenService

theorem isPlain_succ_iff_extras {payload : Bytes} {members : List (String × Bytes)} {depth : ℕ}
    (hmembers : members? payload = some members)
    (hplain : ∀ m ∈ members, m.1 ∈ Claims.names → ∀ depth, isPlain depth m.2 = true) :
    isPlain (depth + 1) payload = true ↔
      ∀ m ∈ members, m.1 ∉ Claims.names → isPlain depth m.2 = true := by
  rw [isPlain_succ_eq_all hmembers, List.all_eq_true]
  constructor
  · intro hall m hm _
    exact hall m hm
  · intro hextras m hm
    by_cases hkey : m.1 ∈ Claims.names
    · exact hplain m hm hkey depth
    · exact hextras m hm hkey

namespace Token

/-- A payload that has, beside its claims, a number beyond the range of double precision. -/
def boundless : String :=
  "\x7b\"user_id\":1,\"username\":\"alice\",\"iat\":100,\"nbf\":100,\"exp\":3700," ++
    "\"iss\":\"conduit-api\",\"sub\":\"user:1\",\"scale\":1e999\x7d"

def boundlessClaims : Claims :=
  ⟨1, "alice", 100, 100, 3700, "conduit-api", "user:1"⟩

theorem verify_boundless :
    TokenService.verify ⟨"secret", 3600⟩ 100 (sign "secret" header boundless) =
      .ok boundlessClaims := by
  have hdocument : isDocument (Utf8.encode boundless) = true := by decide
  have hread : Claims.read? (Utf8.encode boundless) = some boundlessClaims := by decide
  have hchecked : (registered? (Utf8.encode boundless)).map (check 100) = some (.ok ()) := rfl
  obtain ⟨registered, hregistered, hcheck⟩ := Option.map_eq_some_iff.mp hchecked
  rw [TokenService.verify, checked_of_registered (payload?_sign _ _) hdocument hregistered hcheck,
    hread]
  rfl

theorem exists_extra_boundless : ∃ members, members? (Utf8.encode boundless) = some members ∧
    ∃ m ∈ members, m.1 ∉ Claims.names ∧ isPlain 126 m.2 = false := by
  have hany : (members? (Utf8.encode boundless)).any (fun members => members.any fun m =>
      decide (m.1 ∉ Claims.names ∧ isPlain 126 m.2 = false)) = true := by
    decide
  cases hmembers : members? (Utf8.encode boundless) with
  | none =>
      rw [hmembers] at hany
      cases hany
  | some members =>
      rw [hmembers, Option.any_some] at hany
      obtain ⟨m, hm, hextra⟩ := List.any_eq_true.mp hany
      exact ⟨members, rfl, m, hm, of_decide_eq_true hextra⟩

end Token

/-- On a token that is good, the readers of its user's number and name agree with the reader of all
claims exactly if every claim beyond those that the service writes can be kept; otherwise both
refuse the token. -/
theorem readers_agree_iff {service : TokenService} {now : ℕ} {token : String} {claims : Claims}
    (h : service.verify now token = .ok claims) :
    ∃ payload members, Token.payload? service.secret token = some payload ∧
      members? payload = some members ∧
      (service.userId now token = .ok claims.userId ∧
          service.username now token = .ok claims.username ↔
        ∀ m ∈ members, m.1 ∉ Claims.names → isPlain 126 m.2 = true) ∧
      ((∃ m ∈ members, m.1 ∉ Claims.names ∧ isPlain 126 m.2 = false) →
        service.userId now token = .error .invalid ∧
          service.username now token = .error .invalid) := by
  obtain ⟨payload, members, hpayload, hmembers, hplain, hagree, hrefuse⟩ :=
    TokenService.claims_of_verify h
  have hextras : isPlain 127 payload = true ↔
      ∀ m ∈ members, m.1 ∉ Claims.names → isPlain 126 m.2 = true :=
    isPlain_succ_iff_extras hmembers hplain
  refine ⟨payload, members, hpayload, hmembers, ?_, ?_⟩
  · rw [← hextras]
    constructor
    · intro hok
      by_contra hlost
      rw [(hrefuse (Bool.eq_false_iff.mpr hlost)).1] at hok
      cases hok.1
    · exact hagree
  · rintro ⟨m, hm, hkey, hlost⟩
    apply hrefuse
    rw [Bool.eq_false_iff]
    intro hkept
    rw [hextras.mp hkept m hm hkey] at hlost
    cases hlost

theorem readers_agree_iff_boundless :
    let service : TokenService := ⟨"secret", 3600⟩
    let token := Token.sign "secret" Token.header Token.boundless
    service.verify 100 token = .ok Token.boundlessClaims ∧
      service.userId 100 token = .error .invalid ∧
      service.username 100 token = .error .invalid := by
  intro service token
  have hverify : service.verify 100 token = .ok Token.boundlessClaims := Token.verify_boundless
  obtain ⟨payload, members, hpayload, hmembers, -, hrefuse⟩ := readers_agree_iff hverify
  obtain ⟨members', hmembers', hextra⟩ := Token.exists_extra_boundless
  obtain rfl := Option.some.inj ((Token.payload?_sign _ _).symm.trans hpayload)
  obtain rfl := Option.some.inj (hmembers'.symm.trans hmembers)
  exact ⟨hverify, hrefuse hextra⟩

theorem not_readers_agree :
    ¬ ∀ (service : TokenService) (now : ℕ) (token : String) (claims : Claims),
      service.verify now token = .ok claims → service.userId now token = .ok claims.userId ∧
        service.username now token = .ok claims.username := by
  intro h
  obtain ⟨huser, -⟩ := h _ _ _ _ Token.verify_boundless
  obtain ⟨payload, members, hpayload, -, -, -, hrefuse⟩ :=
    TokenService.claims_of_verify Token.verify_boundless
  obtain rfl := Option.some.inj ((Token.payload?_sign _ _).symm.trans hpayload)
  have hlost : isPlain 127 (Utf8.encode Token.boundless) = false := by decide +kernel
  rw [(hrefuse hlost).1] at huser
  cases huser

end Weblog
