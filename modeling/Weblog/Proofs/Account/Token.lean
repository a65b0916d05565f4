import Weblog.Proofs.Account.Login
import Weblog.Proofs.Token.Window

namespace Weblog

open Session Handler Application

namespace Store

/-- Users are counted from one. -/
def CountsUsers (s : Store) : Prop :=
  0 ≤ s.lastUser ∧ ∀ u ∈ s.users, 0 < u.id

theorem countsUsers_after {s : Store} (h : s.CountsUsers) (q : Statement) :
    (q.after s).CountsUsers := by
  rw [Statement.after]
  split
  · rename_i hexec
    cases q with
    | insertUser =>
        obtain ⟨hu, -, rfl⟩ := insertUser_eq_ok hexec
        refine ⟨Int.le_trans h.1 (Int.le_add_one (Int.le_refl _)), ?_⟩
        simp only [List.forall_mem_append, List.forall_mem_singleton]
        exact ⟨h.2, hu ▸ Int.lt_add_one_of_le h.1⟩
    | updateUser id =>
        rcases updateUser_eq_ok hexec with ⟨-, -, rfl⟩ | ⟨u, hu, -, -, rfl⟩
        · exact h
        · refine ⟨h.1, List.forall_mem_map.mpr fun v hv => ?_⟩
          split
          · exact h.2 u (List.mem_of_find?_eq_some hu)
          · exact h.2 v hv
    | insertArticle =>
        obtain ⟨-, -, -, rfl⟩ := insertArticle_eq_ok hexec
        exact h
    | updateArticle =>
        rcases updateArticle_eq_ok hexec with ⟨-, -, rfl⟩ | ⟨-, -, -, rfl⟩ <;> exact h
    | insertComment =>
        obtain ⟨-, -, -, rfl⟩ := insertComment_eq_ok hexec
        exact h
    | _ => cases hexec; exact h
  · exact h

end Store

theorem Reachable.countsUsers {s : Store} (hs : Reachable s) : s.CountsUsers :=
  hs.of_calls (I := Store.CountsUsers) ⟨Int.le_refl 0, List.forall_mem_nil _⟩
    fun _ _ _ _ h => Store.countsUsers_after h _

theorem Reachable.respond {s : Store} (hs : Reachable s) (app : Application) (m : Moment)
    (r : Request) : Reachable ((app.respond m r).run s).2 := by
  obtain ⟨pending, ht⟩ := hs
  exact ⟨pending, ht.steps (Traffic.steps_respond _ app m r)⟩

/-- The request asks for an account with a token: it is a registration, a login, or a change of the
account. -/
def Request.AsksForToken (r : Request) : Prop :=
  r.method = .post ∧ (Route.ofPath? r.path = some .users ∨ Route.ofPath? r.path = some .login) ∨
    r.method = .put ∧ Route.ofPath? r.path = some .user

variable {s : Store} {m : Moment} {r : Request}

theorem Request.AsksForToken.answer (hr : r.AsksForToken) (app : Application)
    (hstatus : ((app.respond m r).run s).1.status < 400) :
    ∃ u ∈ ((app.respond m r).run s).2.users, ∃ status,
      ((app.respond m r).run s).1 =
        complete app.audience m r (Accounts.answer app.shared m status u) := by
  rcases hr with ⟨hmethod, hroute | hroute⟩ | ⟨hmethod, hroute⟩
  · have hhandler : handler? app.shared m r .users = some (Accounts.register app.shared m r) := by
      simp [handler?, hmethod]
    obtain ⟨response, s', houtcome, hrun⟩ := ok_of_status app hroute hhandler hstatus
    obtain ⟨draft, passwordHash, u, -, hinsert, rfl⟩ := Accounts.register_eq_ok houtcome
    obtain ⟨-, -, rfl⟩ := Store.insertUser_eq_ok hinsert
    rw [hrun]
    exact ⟨u, List.mem_append_right _ (List.mem_singleton_self u), 201, rfl⟩
  · have hhandler : handler? app.shared m r .login = some (Accounts.login app.shared m r) := by
      simp [handler?, hmethod]
    obtain ⟨response, s', houtcome, hrun⟩ := ok_of_status app hroute hhandler hstatus
    have hs' : (outcome (Accounts.login app.shared m r) s).2 = s :=
      (Accounts.reads_login r).outcome s
    rw [houtcome] at hs'
    obtain rfl : s' = s := hs'
    obtain ⟨given, u, -, hfind, -, rfl⟩ := Accounts.login_eq_ok houtcome
    rw [hrun]
    exact ⟨u, List.mem_of_find?_eq_some hfind, 200, rfl⟩
  · obtain ⟨response, s', houtcome, hrun⟩ :=
      ok_of_status app hroute (handler?_changeAccount hmethod) hstatus
    obtain ⟨p, u, -, rfl, ⟨hfind, rfl⟩ | ⟨columns, hupdate⟩⟩ := Accounts.update_eq_ok houtcome
    · rw [hrun]
      exact ⟨u, List.mem_of_find?_eq_some hfind, 200, rfl⟩
    · rcases Store.updateUser_eq_ok hupdate with ⟨-, hnone, -⟩ | ⟨old, hold, hnew, -, rfl⟩
      · cases hnone
      · obtain rfl := Option.some.inj hnew
        have hid : old.id = p.userId := by simpa using List.find?_some hold
        rw [hrun]
        exact ⟨_, List.mem_map.mpr ⟨old, List.mem_of_find?_eq_some hold, if_pos hid⟩, 200, rfl⟩

/-- A token that is issued to a user shows that user's account in the same second. -/
theorem respond_current (hs : s.Sound) {u : User} (hu : u ∈ s.users)
    (hid : Json.fitsSigned u.id = true) {time : Int} (hfrom : 0 ≤ time)
    (hto : time ≤ Token.greatestTime) (app : Application) (hnow : m.now.seconds = time)
    (hmethod : r.method = .get) (hroute : Route.ofPath? r.path = some .user)
    (hshown : (r.values "authorization").head? =
      some (Principal.scheme ++ app.shared.tokens.issueAt u.id u.username time)) :
    (app.respond m r).run s = (complete app.audience m r (.json 200
      (u.accountView (app.shared.tokens.issueAt u.id u.username time)).reply), s) := by
  have hhandler : handler? app.shared m r .user = some (Accounts.current app.shared m r) := by
    simp [handler?, hmethod]
  have hverify : app.shared.tokens.verify (clock m)
      (app.shared.tokens.issueAt u.id u.username time) =
        .ok (app.shared.tokens.claimsAt u.id u.username time) := by
    rw [clock, hnow, app.shared.tokens.verify_issueAt u.username hid hfrom hto,
      app.shared.tokens.window_claimsAt u.username hfrom hto]
    rfl
  obtain ⟨rest, hvalues⟩ := List.head?_eq_some_iff.mp hshown
  have hprincipal : principal app.shared m r =
      pure ⟨u.id, u.username, app.shared.tokens.issueAt u.id u.username time⟩ := by
    rw [principal, hvalues, Principal.ofHeaders_of_verify
      (app.shared.tokens.token?_issueAt u.id u.username time) hverify]
    rfl
  have hcurrent : outcome (Accounts.current app.shared m r) s = (.ok (.json 200
      (u.accountView (app.shared.tokens.issueAt u.id u.username time)).reply), s) := by
    have hrow : outcome (work (Work.user u.id)) s = (.ok (some u), s) := by
      rw [Accounts.outcome_user, hs.user?_eq hu]
    rw [Accounts.current, hprincipal, pure_bind, outcome_bind_of_ok hrow]
    rfl
  rw [run_respond app hroute hhandler, hcurrent]
  rfl

/-- Every token that is handed out authenticates the user whose account it comes with: it carries
the user's number and name, and in the same second it shows the account as it was shown. The number
of a user, like the clock, has 64 bits. -/
theorem handed_out_token_signs_in {s : Store} (hs : Reachable s) (app : Application) (m : Moment)
    (r : Request) (hfrom : 0 ≤ m.now.seconds) (hto : m.now.seconds ≤ Token.greatestTime)
    (hr : r.AsksForToken)
    (hstatus : 200 ≤ ((app.respond m r).run s).1.status ∧
      ((app.respond m r).run s).1.status < 300)
    (hnumbers : ((app.respond m r).run s).2.lastUser ≤ Token.greatestTime) :
    ∃ u ∈ ((app.respond m r).run s).2.users, ∃ token,
      ((app.respond m r).run s).1.body = .json (u.accountView token).reply ∧
      app.shared.tokens.userId (clock m) token = .ok u.id ∧
      app.shared.tokens.username (clock m) token = .ok u.username ∧
      ∀ (m' : Moment) (r' : Request), m'.now.seconds = m.now.seconds → r'.method = .get →
        Route.ofPath? r'.path = some .user →
        (r'.values "authorization").head? = some ("Token " ++ token) →
          (app.respond m' r').run ((app.respond m r).run s).2 =
            (complete app.audience m' r' (.json 200 (u.accountView token).reply),
              ((app.respond m r).run s).2) := by
  obtain ⟨u, hu, status, hanswer⟩ := hr.answer app (Nat.lt_trans hstatus.2 (by decide))
  have hreachable := hs.respond app m r
  have hid : Json.fitsSigned u.id = true := by
    have hle := hreachable.sound.userIds_le u hu
    exact Token.fitsSigned_of_bounds (Int.le_of_lt (hreachable.countsUsers.2 u hu)) (by omega)
  have hwindow : (app.shared.tokens.claimsAt u.id u.username m.now.seconds).window
      m.now.seconds.toNat = .ok () := app.shared.tokens.window_claimsAt u.username hfrom hto
  refine ⟨u, hu, app.shared.tokens.issueAt u.id u.username m.now.seconds, ?_, ?_, ?_, ?_⟩
  · have hhead : r.method ≠ .head := by
      rcases hr with ⟨hmethod, -⟩ | ⟨hmethod, -⟩ <;> rw [hmethod] <;> nofun
    rw [hanswer]
    simp only [complete, if_neg hhead]
    rfl
  · rw [app.shared.tokens.userId_issueAt u.username hid hfrom hto, clock, hwindow]
    rfl
  · rw [app.shared.tokens.username_issueAt u.username hid hfrom hto, clock, hwindow]
    rfl
  · intro m' r' hnow hmethod hroute hshown
    exact respond_current hreachable.sound hu hid hfrom hto app hnow hmethod hroute hshown

namespace Sample

/-- `alice` takes another name. -/
def renameAccount : Request :=
  ⟨.put, "/api/user", "", asAlice, body "user" [("username", "bob")]⟩

theorem run_renameAccount :
    ((app.respond moment renameAccount).run (store [] 0)).1.status = 200 ∧
      ((app.respond moment renameAccount).run (store [] 0)).2 =
        ⟨[{ alice with username := "bob" }], [], [], 1, 0, 0⟩ := by
  have hroute : Route.ofPath? renameAccount.path = some .user := by decide
  rw [respond_asAlice hroute (by decide) rfl rfl, run_bind, run_finish]
  decide +kernel

end Sample

open Sample in
theorem handed_out_token_signs_in_renamed : ∃ token,
    ((app.respond moment renameAccount).run (store [] 0)).1.body =
      .json (AccountView.reply ⟨"a@b.co", token, "bob", "", ""⟩) ∧
    app.shared.tokens.userId 0 token = .ok 1 ∧ app.shared.tokens.username 0 token = .ok "bob" := by
  obtain ⟨hstatus, hstore⟩ := run_renameAccount
  have hr : renameAccount.AsksForToken := .inr ⟨rfl, by decide⟩
  obtain ⟨u, hu, token, hbody, hid, hname, -⟩ := handed_out_token_signs_in
    served_registered.reachable app moment renameAccount (by decide) (by decide) hr
    (by rw [hstatus]; decide) (by rw [hstore]; decide)
  rw [hstore] at hu
  obtain rfl := List.mem_singleton.mp hu
  exact ⟨token, hbody, hid, hname⟩

end Weblog
