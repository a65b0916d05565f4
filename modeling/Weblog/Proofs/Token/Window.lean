import Weblog.Proofs.Json.Plain
import Weblog.Proofs.Token.Signing

namespace Weblog

open Json (Begins fitsSigned)

namespace Token

variable {service : TokenService} {userId time : Int} {username : String}

theorem payload?_issueAt (service : TokenService) (userId : Int) (username : String) (time : Int) :
    ∃ payload, payload? service.secret (service.issueAt userId username time) = some payload ∧
      payload = Utf8.bytes (service.claimsAt userId username time).toJson.chars := by
  refine ⟨_, payload?_sign _ _, ?_⟩
  rw [Json.Value.render, Utf8.encode_ofList]

theorem expiresAt_bounds (service : TokenService) (userId : Int) (username : String)
    (hmax : time ≤ greatestTime) :
    time ≤ (service.claimsAt userId username time).expiresAt ∧
      (service.claimsAt userId username time).expiresAt ≤ greatestTime := by
  have hgreatest : greatestTime = 9223372036854775807 := rfl
  simp only [TokenService.claimsAt]
  omega

theorem fitsSigned_of_bounds {n : Int} (hn : 0 ≤ n) (hmax : n ≤ greatestTime) :
    fitsSigned n = true := by
  have hgreatest : greatestTime = 9223372036854775807 := rfl
  have hpow : Nat.pow 2 63 = 9223372036854775808 := rfl
  rw [fitsSigned, hpow, Bool.and_eq_true, decide_eq_true_eq, decide_eq_true_eq]
  simp only [Int.ofNat_eq_natCast]
  omega

end Token

namespace Claims

/-- The members that carry the claims. -/
def members (c : Claims) : List (String × Json.Value) :=
  [("user_id", .int c.userId), ("username", .string c.username), ("iat", .int c.issuedAt),
    ("nbf", .int c.notBefore), ("exp", .int c.expiresAt), ("iss", .string c.issuer),
    ("sub", .string c.subject)]

theorem nodup_keys (c : Claims) : (c.members.map (·.1)).Nodup := by
  simp [members]

/-- Where the clock stands in the time for which the claims are good. -/
def window (c : Claims) (now : Nat) : Except TokenError Unit :=
  if c.expiresAt < now then .error .expired
  else if now < c.notBefore then .error .invalid
  else .ok ()

variable {claims : Claims} {payload : Bytes}

theorem read?_of_begins (h : Begins (.object claims.members) payload)
    (huserId : fitsSigned claims.userId = true) (hissued : fitsSigned claims.issuedAt = true)
    (hbefore : fitsSigned claims.notBefore = true) (hexpires : fitsSigned claims.expiresAt = true) :
    Claims.read? payload = some claims := by
  obtain ⟨fields, hfields, hall⟩ := Json.fields?_of_keys h claims.nodup_keys false
  simp only [members, List.map_cons, List.map_nil] at hfields hall
  -- there is one view for each claim, in the order in which they are asked for
  obtain _ | ⟨⟨huser⟩, _ | ⟨⟨hname⟩, _ | ⟨⟨hiat⟩, _ | ⟨⟨hnbf⟩, _ | ⟨⟨hexp⟩, _ | ⟨⟨hiss⟩,
    _ | ⟨⟨hsub⟩, _ | _⟩⟩⟩⟩⟩⟩⟩ := hall
  rw [Claims.read?, hfields]
  simp only [Option.bind_eq_bind, Option.bind_some, Json.int?_of_begins huser huserId,
    Json.string?_of_begins hname, Json.int?_of_begins hiat hissued,
    Json.int?_of_begins hnbf hbefore, Json.int?_of_begins hexp hexpires,
    Json.string?_of_begins hiss, Json.string?_of_begins hsub, Option.pure_def]

end Claims

namespace Token

variable {service : TokenService} {userId time : Int} {username : String} {claims : Claims}
  {payload : Bytes}

theorem registered?_of_begins (h : Begins (.object claims.members) payload)
    (hexpires : 0 ≤ claims.expiresAt) (hexpiresMax : claims.expiresAt ≤ greatestTime)
    (hbefore : 0 ≤ claims.notBefore) (hbeforeMax : claims.notBefore ≤ greatestTime) :
    registered? payload =
      some ⟨claims.expiresAt.toNat, claims.notBefore.toNat, [claims.issuer], false⟩ := by
  have hvalues : ["exp", "nbf", "sub", "iss", "aud"].map
      (fun name => claims.members.lookup name) =
        [some (.int claims.expiresAt), some (.int claims.notBefore), some (.string claims.subject),
          some (.string claims.issuer), none] := rfl
  obtain ⟨fields, hfields, hall⟩ := Json.fields?_of_begins h claims.nodup_keys false hvalues
  obtain _ | ⟨⟨hexp⟩, _ | ⟨⟨hnbf⟩, _ | ⟨⟨hsub⟩, _ | ⟨⟨hiss⟩, _ | ⟨_ | _, _ | _⟩⟩⟩⟩⟩ := hall
  have hmax : greatestTime < Nat.pow 2 64 := by decide
  have hreadExp := Json.date?_of_begins hexp hexpires (by omega)
  have hreadNbf := Json.date?_of_begins hnbf hbefore (by omega)
  rw [registered?, hfields]
  simp only [Option.bind_eq_bind, Option.bind_some, Json.string?_of_begins hsub, date?, hreadExp,
    hreadNbf, strings?, Json.string?_of_begins hiss, Option.pure_def]

theorem plainMembers?_of_begins (h : Begins (.object claims.members) payload)
    (huserId : fitsSigned claims.userId = true) (hissued : fitsSigned claims.issuedAt = true)
    (hbefore : fitsSigned claims.notBefore = true) (hexpires : fitsSigned claims.expiresAt = true) :
    ∃ views, plainMembers? payload = some views ∧ ∀ name,
      Option.Rel Begins (claims.members.reverse.lookup name) (lastMember? views name) := by
  have hplain : Json.isPlain 127 payload = true := by
    refine Json.isPlain_of_object h ?_
    simp only [Claims.members, List.forall_mem_cons, List.not_mem_nil, false_implies, implies_true,
      and_true]
    exact ⟨fun _ hview => Json.isPlain_of_int hview huserId _,
      fun _ hview => Json.isPlain_of_string hview _,
      fun _ hview => Json.isPlain_of_int hview hissued _,
      fun _ hview => Json.isPlain_of_int hview hbefore _,
      fun _ hview => Json.isPlain_of_int hview hexpires _,
      fun _ hview => Json.isPlain_of_string hview _,
      fun _ hview => Json.isPlain_of_string hview _⟩
  obtain ⟨views, hviews, hall⟩ := Json.members?_of_begins h
  refine ⟨views, by rw [plainMembers?, if_pos hplain, hviews], fun name => ?_⟩
  exact Json.lookup_of_forall₂ (List.forall₂_reverse_iff.mpr hall) name

theorem check_eq_window (claims : Claims) (hissuer : claims.issuer = issuerName)
    (hexpires : 0 ≤ claims.expiresAt) (now : Nat) :
    check now ⟨claims.expiresAt.toNat, claims.notBefore.toNat, [claims.issuer], false⟩ =
      claims.window now := by
  have hcontains : [issuerName].contains issuerName = true := by decide
  simp only [check, hissuer, hcontains, Bool.not_true, Bool.false_eq_true, if_false, Claims.window,
    Int.toNat_lt hexpires, Int.lt_toNat]

section

variable (huserId : fitsSigned userId = true) (htime : 0 ≤ time) (hmax : time ≤ greatestTime)
  (now : Nat)

include htime hmax in
theorem checked_issueAt {α : Type} {read : Bytes → Option α} {a : α}
    (hread : read (Utf8.bytes (service.claimsAt userId username time).toJson.chars) = some a) :
    checked service.secret read now (service.issueAt userId username time) =
      ((service.claimsAt userId username time).window now).map fun _ => a := by
  obtain ⟨payload, hpayload, rfl⟩ := payload?_issueAt service userId username time
  obtain ⟨hle, hexpires⟩ := expiresAt_bounds service userId username hmax
  have hregistered := registered?_of_begins
    (Json.begins_chars (service.claimsAt userId username time).toJson) (by omega) hexpires htime
    hmax
  have hcheck := check_eq_window (service.claimsAt userId username time) rfl (by omega) now
  rw [checked, hpayload]
  simp only [Json.document?_chars, hread, hregistered, hcheck]
  cases Claims.window _ now <;> rfl

include huserId htime hmax in
theorem claim_issueAt {α : Type} {read : Bytes → Option α} {a : α} {name : String}
    {v : Json.Value}
    (hmember : (service.claimsAt userId username time).members.reverse.lookup name = some v)
    (hread : ∀ view, Begins v view → read view = some a) :
    service.claim name read now (service.issueAt userId username time) =
      ((service.claimsAt userId username time).window now).map fun _ => a := by
  obtain ⟨hle, hexpires⟩ := expiresAt_bounds service userId username hmax
  have htimes := fitsSigned_of_bounds htime hmax
  obtain ⟨views, hviews, hlookup⟩ := plainMembers?_of_begins
    (Json.begins_chars (service.claimsAt userId username time).toJson) huserId htimes htimes
    (fitsSigned_of_bounds (Int.le_trans htime hle) hexpires)
  -- of members with one name the last counts, so both lists are searched from their ends
  have hclaim : (lastMember? views name).bind read = some a := by
    have hview := hlookup name
    rw [hmember] at hview
    cases hfound : lastMember? views name with
    | none =>
        rw [hfound] at hview
        exact nomatch hview
    | some view =>
        rw [hfound] at hview
        obtain ⟨hview⟩ := hview
        exact hread view hview
  rw [TokenService.claim, checked_issueAt htime hmax now hviews]
  cases Claims.window _ now with
  | error e => rfl
  | ok _ => simp only [Except.map, Bind.bind, Except.bind, hclaim]

end

end Token

namespace TokenService

open Token

variable (service : TokenService) {userId time : Int} (username : String)

section

variable (huserId : fitsSigned userId = true) (htime : 0 ≤ time) (hmax : time ≤ greatestTime)
  (now : Nat)

include huserId htime hmax

theorem verify_issueAt :
    service.verify now (service.issueAt userId username time) =
      ((service.claimsAt userId username time).window now).map
        fun _ => service.claimsAt userId username time := by
  obtain ⟨hle, hexpires⟩ := expiresAt_bounds service userId username hmax
  have htimes := fitsSigned_of_bounds htime hmax
  exact checked_issueAt htime hmax now (Claims.read?_of_begins
    (Json.begins_chars (service.claimsAt userId username time).toJson) huserId htimes htimes
    (fitsSigned_of_bounds (Int.le_trans htime hle) hexpires))

theorem userId_issueAt :
    service.userId now (service.issueAt userId username time) =
      ((service.claimsAt userId username time).window now).map fun _ => userId :=
  claim_issueAt huserId htime hmax now rfl fun _ hview => Json.int?_of_begins hview huserId

theorem username_issueAt :
    service.username now (service.issueAt userId username time) =
      ((service.claimsAt userId username time).window now).map fun _ => username :=
  claim_issueAt huserId htime hmax now rfl fun _ hview => Json.string?_of_begins hview

omit huserId in
theorem window_claimsAt : (service.claimsAt userId username time).window time.toNat = .ok () := by
  obtain ⟨hle, -⟩ := expiresAt_bounds service userId username hmax
  have hnow : (time.toNat : Int) = time := Int.toNat_of_nonneg htime
  have hbefore : (service.claimsAt userId username time).notBefore = time := rfl
  rw [Claims.window, hnow, hbefore, if_neg (Int.not_lt.mpr hle), if_neg (Int.lt_irrefl time)]

end

theorem token?_issueAt (userId : Int) (username : String) (time : Int) :
    Principal.token? (Principal.scheme ++ service.issueAt userId username time) =
      .ok (service.issueAt userId username time) :=
  Principal.token?_append (sign_ne_empty _ _ _) (isTokenChar_sign _ _ _)

end TokenService

/-- A token that has been issued is read back whole from its second of issue to the last second of
its lifetime, by each of the three readers; afterwards it has expired, and before it is invalid. -/
theorem issued_token_window (service : TokenService) (userId : Int) (username : String) (time : Int)
    (huserId : fitsSigned userId = true) (htime : 0 ≤ time) (hmax : time ≤ Token.greatestTime)
    (now : Nat) :
    let token := service.issueAt userId username time
    let claims := service.claimsAt userId username time
    (time ≤ now → now ≤ claims.expiresAt → service.verify now token = .ok claims ∧
      service.userId now token = .ok userId ∧ service.username now token = .ok username) ∧
    (claims.expiresAt < now → service.verify now token = .error .expired ∧
      service.userId now token = .error .expired ∧ service.username now token = .error .expired) ∧
    (now < time → service.verify now token = .error .invalid ∧
      service.userId now token = .error .invalid ∧
      service.username now token = .error .invalid) := by
  intro token claims
  obtain ⟨hle, -⟩ : time ≤ claims.expiresAt ∧ claims.expiresAt ≤ Token.greatestTime :=
    Token.expiresAt_bounds service userId username hmax
  have hwindow : claims.window now = if claims.expiresAt < now then .error .expired
      else if now < time then .error .invalid else .ok () := rfl
  rw [service.verify_issueAt username huserId htime hmax now,
    service.userId_issueAt username huserId htime hmax now,
    service.username_issueAt username huserId htime hmax now, hwindow]
  refine ⟨fun hfrom hto => ?_, fun hpast => ?_, fun hbefore => ?_⟩
  · rw [if_neg (by omega), if_neg (by omega)]
    exact ⟨rfl, rfl, rfl⟩
  · rw [if_pos hpast]
    exact ⟨rfl, rfl, rfl⟩
  · rw [if_neg (by omega), if_pos hbefore]
    exact ⟨rfl, rfl, rfl⟩

theorem issued_token_window_last_second :
    fitsSigned (-9223372036854775808) = true ∧ (0 : Int) ≤ 100 ∧ 100 ≤ Token.greatestTime ∧
      let service : TokenService := ⟨"secret", 3600⟩
      let token := service.issueAt (-9223372036854775808) "a\"\\\u00e9\n" 100
      service.verify 3700 token = .ok ⟨-9223372036854775808, "a\"\\\u00e9\n", 100, 100, 3700,
        "conduit-api", "user:-9223372036854775808"⟩ ∧
      service.username 3700 token = .ok "a\"\\\u00e9\n" ∧
      service.userId 3701 token = .error .expired ∧ service.userId 99 token = .error .invalid := by
  have hwindow := issued_token_window ⟨"secret", 3600⟩ (-9223372036854775808) "a\"\\\u00e9\n" 100
    (by decide) (by decide) (by decide)
  refine ⟨by decide, by decide, by decide, ?_, ?_, ?_, ?_⟩
  · exact ((hwindow 3700).1 (by decide) (by decide)).1
  · exact ((hwindow 3700).1 (by decide) (by decide)).2.2
  · exact ((hwindow 3701).2.1 (by decide)).2.1
  · exact ((hwindow 99).2.2 (by decide)).2.1

end Weblog
