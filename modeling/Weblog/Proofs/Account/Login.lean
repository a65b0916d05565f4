import Weblog.Proofs.Account.KeyStream
import Weblog.Proofs.Account.Warrant
import Weblog.Proofs.Service.Success
import Weblog.Proofs.Store.Conflict

namespace Weblog

open Session Handler Application Settings Text Bcrypt

namespace Store

variable {s : Store} {u : User}

theorem Sound.eq_of_equalFold (hs : s.Sound) {v : User} (hu : u ∈ s.users) (hv : v ∈ s.users)
    (h : equalFold u.email v.email = true) : u = v :=
  hs.usersDiffer.eq_of_equalFold hu hv h

theorem Sound.userByEmail?_eq (hs : s.Sound) (hu : u ∈ s.users) {email : String}
    (hemail : equalFold u.email email = true) : s.userByEmail? email = some u :=
  hs.usersDiffer.userByEmail?_eq hu hemail

end Store

section

variable {shared : Shared} {m : Moment} {r : Request} {s : Store}

theorem outcome_userByEmail (email : String) (s : Store) :
    outcome (work (Work.userByEmail email)) s = (.ok (s.userByEmail? email), s) := by
  rw [outcome_work, Work.userByEmail, outcome_ask]
  rfl

namespace Accounts

theorem outcome_login_of_verified {given : Credentials} {u : User}
    (hgiven : IsPayload credentials r given) (hu : s.userByEmail? given.email = some u)
    (hverify : shared.passwords.verify given.password u.passwordHash = .ok true) :
    outcome (login shared m r) s = (.ok (answer shared m 200 u), s) := by
  rw [login, outcome_bind_of_ok (outcome_payload hgiven s),
    outcome_bind_of_ok (outcome_userByEmail given.email s), hu]
  simp only [hverify]
  rfl

theorem login_eq_ok {response : Response} {s' : Store}
    (h : outcome (login shared m r) s = (.ok response, s')) :
    ∃ given u, IsPayload credentials r given ∧ s.userByEmail? given.email = some u ∧
      shared.passwords.verify given.password u.passwordHash = .ok true ∧
      response = answer shared m 200 u := by
  rw [login] at h
  obtain ⟨given, t, hgiven, hrest⟩ := outcome_bind_eq_ok h
  have ht := (reads_payload credentials r).outcome s
  rw [hgiven] at ht
  obtain rfl : t = s := ht
  rw [outcome_bind_of_ok (outcome_userByEmail given.email t)] at hrest
  cases hu : t.userByEmail? given.email with
  | none =>
      rw [hu] at hrest
      exact nomatch congrArg Prod.fst hrest
  | some u =>
      rw [hu] at hrest
      obtain ⟨matching, t', hmatching, hanswer⟩ := outcome_bind_eq_ok hrest
      have hverify := ofExcept_eq_ok hmatching
      cases matching with
      | false => exact nomatch congrArg Prod.fst hanswer
      | true =>
          have hresponse := Except.ok.inj (congrArg Prod.fst hanswer)
          exact ⟨given, u, payload_eq_ok hgiven, hu, hverify, hresponse.symm⟩

end Accounts

theorem respond_login (app : Application) (hmethod : r.method = .post)
    (hpath : r.path = "/api/users/login") :
    (app.respond m r).run s =
      (complete app.audience m r (reply (outcome (Accounts.login app.shared m r) s).1), s) := by
  obtain ⟨method, path, query, headers, body⟩ := r
  obtain rfl : method = .post := hmethod
  obtain rfl : path = "/api/users/login" := hpath
  have hhandle : handle app.shared m ⟨.post, "/api/users/login", query, headers, body⟩ =
      finish (Accounts.login app.shared m ⟨.post, "/api/users/login", query, headers, body⟩) := by
    have hroute : Route.ofPath? "/api/users/login" = some .login := by decide
    rw [handle, hroute]
    rfl
  rw [respond, hhandle, run_bind, run_finish, (Accounts.reads_login _).outcome s]
  rfl

theorem username_eq_of_answer_eq {audience : Audience} {status : Nat} {u v : User}
    (hmethod : r.method = .post)
    (h : complete audience m r (Accounts.answer shared m status u) =
      complete audience m r (Accounts.answer shared m status v)) : u.username = v.username := by
  have hbody := congrArg Response.body h
  have hhead : r.method ≠ .head := by
    rw [hmethod]
    exact nofun
  simp only [complete, if_neg hhead, Accounts.answer, Response.json, AccountView.reply,
    AccountView.toJson, User.accountView] at hbody
  simp only [Body.json.injEq, Json.Value.object.injEq, List.cons.injEq, Prod.mk.injEq,
    Json.Value.string.injEq, true_and, and_true] at hbody
  exact hbody.2.2.1

end

/-- The request shows the email address of the account, in whatever case its letters are, and a
password that passes for the one that has been set last. -/
def Request.Unlocks (r : Request) (ledger : List Entry) (u : User) : Prop :=
  ∃ given stored, IsPayload credentials r given ∧ equalFold u.email given.email = true ∧
    lastPassword ledger u.id = some stored ∧ PassesFor given.password stored

theorem User.Keeps.verify_iff {u : User} {passwords : PasswordScheme} {stored : String}
    (h : u.Keeps (fun v => v.app.shared.passwords = passwords) stored)
    (hpasswords : passwords.ComparesCuts) {given : String} :
    passwords.verify given u.passwordHash = .ok true ↔ PassesFor given stored := by
  obtain ⟨v, rfl, hmade⟩ := h.hash
  rw [hpasswords.verify_iff hmade, cut_eq_iff (utf8ByteSize_le_of_passwordFault h.valid)]

section

variable {scheme : PasswordScheme} {ledger : List Entry} {s : Store} {u : User} {m : Moment}
  {r : Request} (hscheme : scheme.ComparesCuts)
  (hknown : (passwords ledger).Known (fun v => v.app.shared.passwords = scheme) s)

include hscheme hknown

theorem Passwords.Known.verify_iff (hu : u ∈ s.users) {given : String} :
    scheme.verify given u.passwordHash = .ok true ↔
      ∃ stored, lastPassword ledger u.id = some stored ∧ PassesFor given stored := by
  obtain ⟨password, hlast, hkeeps⟩ := hknown.kept u hu
  rw [hkeeps.verify_iff hscheme, lastPassword, hlast]
  constructor
  · exact fun hpasses => ⟨password, rfl, hpasses⟩
  · rintro ⟨stored, hstored, hpasses⟩
    rwa [Option.some.inj hstored]

theorem outcome_login_of_unlocks (hs : s.Sound) {shared : Shared}
    (hshared : shared.passwords = scheme) (hu : u ∈ s.users) (h : r.Unlocks ledger u) :
    outcome (Accounts.login shared m r) s = (.ok (Accounts.answer shared m 200 u), s) := by
  obtain ⟨given, stored, hgiven, hemail, hlast, hpasses⟩ := h
  refine Accounts.outcome_login_of_verified hgiven (hs.userByEmail?_eq hu hemail) ?_
  rw [hshared, hknown.verify_iff hscheme hu]
  exact ⟨stored, hlast, hpasses⟩

theorem unlocks_of_login_eq_ok {shared : Shared} (hshared : shared.passwords = scheme)
    {response : Response} {s' : Store}
    (h : outcome (Accounts.login shared m r) s = (.ok response, s')) :
    ∃ u ∈ s.users, r.Unlocks ledger u ∧ response = Accounts.answer shared m 200 u := by
  obtain ⟨given, u, hgiven, hfind, hverify, hresponse⟩ := Accounts.login_eq_ok h
  have hu := List.mem_of_find?_eq_some hfind
  have hemail : equalFold u.email given.email = true := by simpa using List.find?_some hfind
  rw [hshared, hknown.verify_iff hscheme hu] at hverify
  obtain ⟨stored, hlast, hpasses⟩ := hverify
  exact ⟨u, hu, ⟨given, stored, hgiven, hemail, hlast, hpasses⟩, hresponse⟩

theorem unlocks_of_status {app : Application} (happ : app.shared.passwords = scheme)
    (hmethod : r.method = .post) (hpath : r.path = "/api/users/login")
    (hstatus : ((app.respond m r).run s).1.status = 200) :
    ∃ u ∈ s.users, r.Unlocks ledger u ∧
      ((app.respond m r).run s).1 =
        complete app.audience m r (Accounts.answer app.shared m 200 u) := by
  rw [respond_login app hmethod hpath] at hstatus ⊢
  rcases houtcome : outcome (Accounts.login app.shared m r) s with ⟨e | response, s'⟩
  · rw [houtcome] at hstatus
    have hle : 400 ≤ 200 := hstatus ▸ e.le_status
    omega
  · obtain ⟨u, hu, hunlocks, rfl⟩ := unlocks_of_login_eq_ok hscheme hknown happ houtcome
    exact ⟨u, hu, hunlocks, rfl⟩

end

namespace Sample

/-- Passwords are kept as they are, but compared by what is read of them. -/
def cutting : PasswordScheme :=
  ⟨fun _ _ password => .ok password, fun given stored => .ok (cut given == cut stored)⟩

theorem comparesCuts_cutting : cutting.ComparesCuts := by
  constructor
  rintro salt cost password _ given ⟨⟩
  simp [cutting]

def cuttingApp : Application := { app with shared := { app.shared with passwords := cutting } }

/-- A password of so many letters. -/
def letters (n : ℕ) : String := String.ofList (List.replicate n 'a')

/-- A record of texts, the last of them a password of so many letters. -/
def recordWith (front : String) (n : ℕ) : Bytes :=
  Utf8.encode front ++ List.replicate n 97 ++ Utf8.encode "\"\x7d\x7d"

def enroll : Request :=
  ⟨.post, "/api/users", "", asJson, recordWith
    "\x7b\"user\":\x7b\"username\":\"alice\",\"email\":\"a@b.co\",\"password\":\"" 72⟩

def comeBack (n : ℕ) : Request :=
  ⟨.post, "/api/users/login", "", asJson, recordWith
    "\x7b\"user\":\x7b\"email\":\"A@b.co\",\"password\":\"" n⟩

/-- `alice` registers with 72 letters: the three statements of her request are carried out. -/
def enrolled : List Desk.Event :=
  [.arrive ⟨cuttingApp, moment, enroll⟩, .serve 0, .serve 0, .serve 0]

def member : User := { alice with passwordHash := letters 72 }

theorem scheme_enrolled : ∀ v, .arrive v ∈ enrolled → v.app.shared.passwords = cutting := by
  intro v hv
  obtain rfl : v = ⟨cuttingApp, moment, enroll⟩ := by simpa [enrolled] using hv
  rfl

theorem enrolled_facts :
    (Desk.run enrolled).store.users = [member] ∧
      lastPassword (Desk.ledger enrolled) 1 = some (letters 72) ∧
      payload? credentials (comeBack 72) = some ⟨"A@b.co", letters 72⟩ ∧
      payload? credentials (comeBack 73) = some ⟨"A@b.co", letters 73⟩ := by
  decide +kernel

theorem member_mem : member ∈ (Desk.run enrolled).store.users := by
  rw [enrolled_facts.1]
  exact List.mem_singleton_self member

theorem unlocks_longer : (comeBack 73).Unlocks (Desk.ledger enrolled) member := by
  have hvalid : credentials.violations ⟨"A@b.co", letters 73⟩ = [] := by decide
  have hcut : cut (letters 73) = cut (letters 72) := by decide
  refine ⟨_, _, ⟨enrolled_facts.2.2.2, hvalid⟩, by decide, enrolled_facts.2.1, ?_⟩
  exact (cut_eq_iff (by decide)).mp hcut

end Sample

/-- After any events, a login is answered with 200 for an account if and only if it shows the email
address of the account and a password that passes for the one that has been set last. That need not
be the same password: see `Bcrypt.PassesFor`. -/
theorem login_answers_iff {passwords : PasswordScheme} (hpasswords : passwords.ComparesCuts)
    {events : List Desk.Event}
    (hevents : ∀ v, .arrive v ∈ events → v.app.shared.passwords = passwords) (app : Application)
    (happ : app.shared.passwords = passwords) (m : Moment) (r : Request)
    (hmethod : r.method = .post) (hpath : r.path = "/api/users/login") :
    (∀ u ∈ (Desk.run events).store.users,
        ((app.respond m r).run (Desk.run events).store).1 =
            complete app.audience m r (Accounts.answer app.shared m 200 u) ↔
          r.Unlocks (Desk.ledger events) u) ∧
      (((app.respond m r).run (Desk.run events).store).1.status = 200 →
        ∃ u ∈ (Desk.run events).store.users, r.Unlocks (Desk.ledger events) u) := by
  have hs := Desk.sound_run events
  have hknown := Desk.known_run hevents
  constructor
  · intro u hu
    constructor
    · intro hresponse
      have hstatus : ((app.respond m r).run (Desk.run events).store).1.status = 200 := by
        rw [hresponse]
        rfl
      obtain ⟨v, hv, hunlocks, hanswer⟩ :=
        unlocks_of_status hpasswords hknown happ hmethod hpath hstatus
      have hname := username_eq_of_answer_eq hmethod (hresponse.symm.trans hanswer)
      rwa [List.inj_on_of_nodup_map hs.usernames hu hv hname]
    · intro hunlocks
      rw [respond_login app hmethod hpath,
        outcome_login_of_unlocks hpasswords hknown hs happ hu hunlocks]
      rfl
  · intro hstatus
    obtain ⟨u, hu, hunlocks, -⟩ :=
      unlocks_of_status hpasswords hknown happ hmethod hpath hstatus
    exact ⟨u, hu, hunlocks⟩

open Sample in
theorem login_answers_longer :
    ((cuttingApp.respond moment (comeBack 73)).run (Desk.run enrolled).store).1 =
      complete cuttingApp.audience moment (comeBack 73)
        (Accounts.answer cuttingApp.shared moment 200 member) := by
  have hanswers := login_answers_iff comparesCuts_cutting scheme_enrolled cuttingApp rfl moment
    (comeBack 73) rfl rfl
  exact (hanswers.1 member member_mem).mpr unlocks_longer

open Sample in
theorem not_only_last_password :
    ¬ ∀ (passwords : PasswordScheme) (events : List Desk.Event) (app : Application) (m : Moment)
      (r : Request) (given : Credentials) (u : User), passwords.ComparesCuts →
      (∀ v, .arrive v ∈ events → v.app.shared.passwords = passwords) →
      app.shared.passwords = passwords → r.method = .post → r.path = "/api/users/login" →
      payload? credentials r = some given → u ∈ (Desk.run events).store.users →
      ((app.respond m r).run (Desk.run events).store).1 =
        complete app.audience m r (Accounts.answer app.shared m 200 u) →
      lastPassword (Desk.ledger events) u.id = some given.password := by
  intro hsound
  have hanswer : ((cuttingApp.respond moment (comeBack 73)).run (Desk.run enrolled).store).1 =
      complete cuttingApp.audience moment (comeBack 73)
        (Accounts.answer cuttingApp.shared moment 200 member) := by
    rw [respond_login cuttingApp rfl rfl, outcome_login_of_unlocks comparesCuts_cutting
      (Desk.known_run scheme_enrolled) (Desk.sound_run enrolled) rfl member_mem unlocks_longer]
    rfl
  have hlast := hsound cutting enrolled cuttingApp moment (comeBack 73) ⟨"A@b.co", letters 73⟩
    member comparesCuts_cutting scheme_enrolled rfl rfl rfl enrolled_facts.2.2.2 member_mem hanswer
  have hsame := Option.some.inj (enrolled_facts.2.1.symm.trans hlast)
  exact absurd (congrArg String.utf8ByteSize hsame) (by decide)

/-- The request is answered with the hashes of the library, and finds a salt as long as they take. -/
structure Visit.UsesBcrypt (v : Visit) : Prop where
  passwords : v.app.shared.passwords = Bcrypt.scheme
  salt : v.moment.salt.length = 16

theorem User.Keeps.verify_self {u : User} {stored : String} (h : u.Keeps Visit.UsesBcrypt stored) :
    Bcrypt.scheme.verify stored u.passwordHash = .ok true := by
  obtain ⟨v, hv, hmade⟩ := h.hash
  rw [hv.passwords] at hmade
  exact verify_hash_of_key_eq rfl hv.salt hmade

/-- After any events, the accounts for which a password is known are those that are there; and with
the password that has been set last for an account, and its email address in whatever case of its
letters, a login is answered with the account and a token for it. -/
theorem login_lets_in {events : List Desk.Event}
    (hevents : ∀ v, .arrive v ∈ events → v.UsesBcrypt) :
    (∀ id, (lastPassword (Desk.ledger events) id).isSome = true ↔
      ∃ u ∈ (Desk.run events).store.users, u.id = id) ∧
    ∀ u ∈ (Desk.run events).store.users, ∀ password,
      lastPassword (Desk.ledger events) u.id = some password →
      ∀ (app : Application) (m : Moment) (r : Request) (email : String),
        app.shared.passwords = Bcrypt.scheme → r.method = .post → r.path = "/api/users/login" →
        eqIgnoringCase u.email email = true →
        payload? credentials r = some ⟨email, password⟩ →
          (app.respond m r).run (Desk.run events).store =
            (complete app.audience m r (.json 200 (u.accountView
              (app.shared.tokens.issueAt u.id u.username m.now.seconds)).reply),
              (Desk.run events).store) := by
  have hs := Desk.sound_run events
  have hknown := Desk.known_run hevents
  constructor
  · intro id
    constructor
    · exact hknown.opened id
    · rintro ⟨u, hu, rfl⟩
      obtain ⟨password, hlast, -⟩ := hknown.kept u hu
      exact Option.isSome_of_eq_some hlast
  · intro u hu password hlast app m r email happ hmethod hpath hemail hread
    obtain ⟨stored, hstored, hkeeps⟩ := hknown.kept u hu
    obtain rfl : stored = password := Option.some.inj (hstored.symm.trans hlast)
    have hvalid : isEmail email = true := isEmail_of_eqIgnoringCase hemail hkeeps.email
    have hviolations : credentials.violations ⟨email, stored⟩ = [] := by
      refine violations_eq_nil_iff.mpr ?_
      simp [emailFault_eq_none_iff.mpr hvalid, isEmpty_of_passwordFault hkeeps.valid]
    have hfind : (Desk.run events).store.userByEmail? email = some u :=
      hs.userByEmail?_eq hu (equalFold_of_eqIgnoringCase hemail)
    rw [respond_login app hmethod hpath, Accounts.outcome_login_of_verified ⟨hread, hviolations⟩
      hfind (happ ▸ hkeeps.verify_self)]
    rfl

namespace Sample

/-- A service with the hashes of the library, set up as it may be. -/
def regular (r : Request) : Visit :=
  ⟨⟨⟨⟨"secret", 3600⟩, Bcrypt.scheme, 4, ""⟩, .everybody⟩,
    { moment with salt := List.replicate 16 0 }, r⟩

def comeBackInCapitals : Request :=
  ⟨.post, "/api/users/login", "", asJson,
    body "user" [("email", "A@B.CO"), ("password", "secret")]⟩

/-- `alice` registers with a password that is hashed. -/
def joined : List Desk.Event :=
  [.arrive (regular register), .serve 0, .serve 0, .serve 0]

theorem usesBcrypt_joined : ∀ v, .arrive v ∈ joined → v.UsesBcrypt := by
  intro v hv
  obtain rfl : v = regular register := by simpa [joined] using hv
  exact ⟨rfl, rfl⟩

theorem joined_facts :
    lastPassword (Desk.ledger joined) 1 = some "secret" ∧
      (Desk.run joined).store.users.map (fun u => (u.id, u.email)) = [(1, "a@b.co")] ∧
      payload? credentials comeBackInCapitals = some ⟨"A@B.CO", "secret"⟩ := by
  decide +kernel

end Sample

open Sample in
theorem login_lets_in_capital :
    ∃ u ∈ (Desk.run joined).store.users, u.id = 1 ∧ u.email = "a@b.co" ∧
      (regular comeBackInCapitals).work.run (Desk.run joined).store =
        (complete .everybody moment comeBackInCapitals (.json 200 (u.accountView
          (app.shared.tokens.issueAt 1 u.username 0)).reply), (Desk.run joined).store) := by
  obtain ⟨hlast, husers, hread⟩ := joined_facts
  obtain ⟨u, hu, hrow⟩ := List.map_eq_singleton_iff.mp husers
  obtain ⟨hid, hemail⟩ := Prod.mk.inj hrow
  have hmem : u ∈ (Desk.run joined).store.users := hu ▸ List.mem_singleton_self u
  rw [← hid] at hlast
  have hlogin := (login_lets_in usesBcrypt_joined).2 u hmem "secret" hlast
    (regular comeBackInCapitals).app (regular comeBackInCapitals).moment comeBackInCapitals "A@B.CO"
    rfl rfl rfl (hemail ▸ by decide) hread
  rw [hid] at hlogin
  exact ⟨u, hmem, hid, hemail, hlogin⟩

end Weblog
