import Mathlib.Logic.Function.Basic
import Weblog.Proofs.Account.Key
import Weblog.Proofs.Service.Reachability
import Weblog.Proofs.Store.Journal
import Weblog.Proofs.Text.Case
import Weblog.Proofs.Validation

namespace Weblog

open Handler

/-- The row of a user that the statement has written, if it is answered so. -/
def Statement.written? : (q : Statement) → Except DatabaseError q.Answer → Option User
  | .insertUser .., .ok u => some u
  | .updateUser .., .ok row => row
  | _, _ => none

theorem Statement.written?_of_isRead {q : Statement} (hq : q.isRead = true)
    (x : Except DatabaseError q.Answer) : q.written? x = none := by
  cases q <;> first | rfl | cases hq

theorem Statement.written?_error (q : Statement) (e : DatabaseError) :
    q.written? (.error e) = none := by
  cases q <;> rfl

namespace Turn

def written? (t : Turn) : Option User :=
  t.query.written? (t.query.answer t.store)

/-- What a statement does to the table of users. -/
inductive Accounts (t : Turn) : Prop
  | nothing (hwritten : t.written? = none) (hafter : t.after.users = t.store.users)
      (hlast : t.after.lastUser = t.store.lastUser)
  | opens {username email passwordHash : String} {now : Instant} {u : User}
      (hquery : t.query = .insertUser username email passwordHash now)
      (hwritten : t.written? = some u)
      (hu : u = ⟨t.store.lastUser + 1, username, email, passwordHash, "", "", now, now⟩)
      (hafter : t.after.users = t.store.users ++ [u]) (hlast : t.after.lastUser = u.id)
  | changes {u : User} {changes : UserChanges} {now : Instant} (hu : u ∈ t.store.users)
      (hquery : t.query = .updateUser u.id changes now)
      (hwritten : t.written? = some (Store.changeUser u changes now))
      (hafter : t.after.users =
        t.store.users.map fun v => if v.id = u.id then Store.changeUser u changes now else v)
      (hlast : t.after.lastUser = t.store.lastUser)

theorem accounts_of_error {q : Statement} {s : Store} {e : DatabaseError}
    (h : q.exec s = .error e) : Accounts ⟨q, s⟩ := by
  have hafter := Statement.after_of_exec_error h
  refine .nothing ?_ (congrArg Store.users hafter) (congrArg Store.lastUser hafter)
  rw [written?, Statement.answer_of_exec_error h, Statement.written?_error]

theorem accounts_insertUser (username email passwordHash : String) (now : Instant) (s : Store) :
    Accounts ⟨.insertUser username email passwordHash now, s⟩ := by
  cases hexec : s.insertUser username email passwordHash now with
  | error e => exact accounts_of_error hexec
  | ok written =>
      obtain ⟨u, s'⟩ := written
      have hafter := Statement.after_of_exec_ok (q := .insertUser ..) hexec
      have hanswer := Statement.answer_of_exec_ok (q := .insertUser ..) hexec
      obtain ⟨hu, -, rfl⟩ := Store.insertUser_eq_ok hexec
      refine .opens rfl ?_ hu (congrArg Store.users hafter) ?_
      · rw [written?, hanswer]
        rfl
      · exact (congrArg Store.lastUser hafter).trans (congrArg User.id hu).symm

theorem accounts_updateUser (id : Int) (changes : UserChanges) (now : Instant) (s : Store) :
    Accounts ⟨.updateUser id changes now, s⟩ := by
  cases hexec : s.updateUser id changes now with
  | error e => exact accounts_of_error hexec
  | ok written =>
      have hafter := Statement.after_of_exec_ok (q := .updateUser ..) hexec
      have hanswer := Statement.answer_of_exec_ok (q := .updateUser ..) hexec
      obtain ⟨row, s'⟩ := written
      have hwritten : written? ⟨.updateUser id changes now, s⟩ = row := by
        rw [written?, hanswer]
        rfl
      rcases Store.updateUser_eq_ok hexec with ⟨-, rfl, rfl⟩ | ⟨u, hu, rfl, -, hs'⟩
      · exact .nothing hwritten (congrArg Store.users hafter) (congrArg Store.lastUser hafter)
      · obtain rfl : u.id = id := by simpa using List.find?_some hu
        rw [hs'] at hafter
        exact .changes (List.mem_of_find?_eq_some hu) rfl hwritten (congrArg Store.users hafter)
          ((congrArg Store.lastUser hafter).trans rfl)

theorem accounts (t : Turn) : t.Accounts := by
  obtain ⟨q, s⟩ := t
  cases hexec : q.exec s with
  | error e => exact accounts_of_error hexec
  | ok done =>
      obtain ⟨r, s'⟩ := done
      have hafter := Statement.after_of_exec_ok hexec
      have hothers (h : s'.users = s.users ∧ s'.lastUser = s.lastUser)
          (hwritten : q.written? (q.answer s) = none) : Accounts ⟨q, s⟩ :=
        .nothing hwritten ((congrArg Store.users hafter).trans h.1)
          ((congrArg Store.lastUser hafter).trans h.2)
      cases q with
      | insertUser => exact accounts_insertUser _ _ _ _ s
      | updateUser => exact accounts_updateUser _ _ _ s
      | insertArticle =>
          obtain ⟨-, -, -, rfl⟩ := Store.insertArticle_eq_ok hexec
          exact hothers ⟨rfl, rfl⟩ rfl
      | updateArticle =>
          rcases Store.updateArticle_eq_ok hexec with ⟨-, -, rfl⟩ | ⟨-, -, -, rfl⟩
          · exact hothers ⟨rfl, rfl⟩ rfl
          · exact hothers ⟨rfl, rfl⟩ rfl
      | insertComment =>
          obtain ⟨-, -, -, rfl⟩ := Store.insertComment_eq_ok hexec
          exact hothers ⟨rfl, rfl⟩ rfl
      | _ => cases hexec; exact hothers ⟨rfl, rfl⟩ rfl

end Turn

/-- What is true of every user stays so, if it is true of a user whom the statement adds and is kept
by a change that it makes. -/
theorem Statement.forall_users_after {P : User → Prop} {q : Statement} {s : Store}
    (hopens : ∀ {id username email passwordHash now},
      q = .insertUser username email passwordHash now →
        P ⟨id, username, email, passwordHash, "", "", now, now⟩)
    (hchanges : ∀ {id changes now u}, q = .updateUser id changes now → P u →
      P (Store.changeUser u changes now))
    (hs : ∀ u ∈ s.users, P u) : ∀ u ∈ (q.after s).users, P u := by
  cases Turn.accounts ⟨q, s⟩ with
  | nothing hwritten hafter hlast => rwa [show (q.after s).users = _ from hafter]
  | opens hquery hwritten hu hafter hlast =>
      rw [show (q.after s).users = _ from hafter, List.forall_mem_append]
      exact ⟨hs, List.forall_mem_singleton.mpr (hu ▸ hopens hquery)⟩
  | changes hu hquery hwritten hafter hlast =>
      rw [show (q.after s).users = _ from hafter, List.forall_mem_map]
      intro v hv
      split
      · exact hchanges hquery (hs _ hu)
      · exact hs v hv

/-- The hash is made for the request, of a password that may be set. -/
def Visit.Hashes (v : Visit) (passwordHash : String) : Prop :=
  ∃ password, passwordFault password = none ∧
    v.app.shared.passwords.hash v.moment.salt v.app.shared.hashCost password = .ok passwordHash

/-- Where the statement writes an email address or a hash, the address is one, and the hash is made
for the request. -/
def Visit.Warrants (v : Visit) : Statement → Prop
  | .insertUser _ email passwordHash _ => isEmail email = true ∧ v.Hashes passwordHash
  | .updateUser _ changes _ =>
    (∀ email ∈ changes.email, isEmail email = true) ∧
      ∀ passwordHash ∈ changes.passwordHash, v.Hashes passwordHash
  | _ => True

/-- A request that has been answered, with the answer. -/
structure Entry where
  visit : Visit
  response : Response

/-- What an answer tells of passwords: that an account has been opened with one, or that the account
with the number has been given another. -/
inductive News where
  | opened (password : String)
  | changed (id : Int) (password : String)

/-- A registration tells of a password if it is answered with 201, and a change of an account that
names one if it is answered with 200. -/
def Entry.news? (e : Entry) : Option News :=
  match Route.ofPath? e.visit.request.path, e.visit.request.method with
  | some .users, .post =>
    if e.response.status = 201 then
      (payload? registration e.visit.request).map fun draft => .opened draft.password
    else none
  | some .user, .put =>
    if e.response.status = 200 then
      match Principal.ofHeaders e.visit.app.shared.tokens (clock e.visit.moment)
          (e.visit.request.values "authorization"), payload? accountChanges e.visit.request with
      | .ok p, some changes => changes.password.map (.changed p.userId)
      | _, _ => none
    else none
  | _, _ => none

/-- How many accounts have been opened, and the password that has been set last for each. The
accounts have the numbers from one on, in the order in which they are opened. -/
structure Passwords where
  accounts : Int
  last : Int → Option String

def Passwords.set (k : Passwords) (id : Int) (password : String) : Passwords :=
  { k with last := Function.update k.last id (some password) }

def Passwords.note (k : Passwords) (e : Entry) : Passwords :=
  match e.news? with
  | none => k
  | some (.opened password) =>
    { k.set (k.accounts + 1) password with accounts := k.accounts + 1 }
  | some (.changed id password) => k.set id password

/-- What is known of passwords to whoever sees the requests and their answers, in order. -/
def passwords (ledger : List Entry) : Passwords :=
  ledger.foldl Passwords.note ⟨0, fun _ => none⟩

/-- The password that has been set last for the account with the number. -/
def lastPassword (ledger : List Entry) (id : Int) : Option String :=
  (passwords ledger).last id

theorem passwords_append (ledger : List Entry) (e : Entry) :
    passwords (ledger ++ [e]) = (passwords ledger).note e := by
  rw [passwords, List.foldl_append]
  rfl

namespace Passwords

variable {k : Passwords} {id : Int}

theorem note_of_quiet (k : Passwords) {e : Entry} (he : e.news? = none) : k.note e = k := by
  rw [note, he]

theorem set_last_self (k : Passwords) (id : Int) (password : String) :
    (k.set id password).last id = some password :=
  Function.update_self id _ _

theorem set_last_of_ne (k : Passwords) {other : Int} (h : other ≠ id) (password : String) :
    (k.set id password).last other = k.last other :=
  Function.update_of_ne h _ _

theorem set_eq_self {password : String} (h : k.last id = some password) : k.set id password = k := by
  rw [set, ← h, Function.update_eq_self]

end Passwords

/-- The account has an email address, and a hash of the password that has been made for one of the
requests. -/
structure User.Keeps (u : User) (P : Visit → Prop) (password : String) : Prop where
  email : isEmail u.email = true
  valid : passwordFault password = none
  hash : ∃ v, P v ∧
    v.app.shared.passwords.hash v.moment.salt v.app.shared.hashCost password = .ok u.passwordHash

theorem mapM_some_eq_ok {f : α → Except ε β} {a : α} {b : Option β}
    (h : (some a).mapM f = .ok b) : ∃ c, f a = .ok c ∧ some c = b := by
  rw [Option.mapM_some] at h
  cases hf : f a with
  | error e =>
      rw [hf] at h
      exact nomatch h
  | ok c =>
      rw [hf] at h
      exact ⟨c, rfl, Except.ok.inj h⟩

theorem User.Keeps.change {P : Visit → Prop} {u : User} {before : String} (h : u.Keeps P before)
    {v : Visit} (hv : P v) {changes : AccountChanges} (hchanges : changes.violations = [])
    {passwordHash : Option String}
    (hhash : changes.password.mapM
      (v.app.shared.passwords.hash v.moment.salt v.app.shared.hashCost) = .ok passwordHash)
    (now : Instant) :
    (Store.changeUser u
      ⟨changes.username, changes.email, passwordHash, changes.bio, changes.image⟩ now).Keeps P
        (changes.password.getD before) := by
  obtain ⟨-, hemails, hvalid, -⟩ := AccountChanges.violations_eq_nil_iff.mp hchanges
  have hemail : isEmail (changes.email.getD u.email) = true := by
    cases hnew : changes.email with
    | none => exact h.email
    | some email => exact hemails email hnew
  cases hpassword : changes.password with
  | none =>
      rw [hpassword] at hhash
      obtain rfl : none = passwordHash := Except.ok.inj hhash
      exact ⟨hemail, h.valid, h.hash⟩
  | some password =>
      rw [hpassword] at hhash
      obtain ⟨made, hmade, rfl⟩ := mapM_some_eq_ok hhash
      exact ⟨hemail, hvalid password hpassword, v, hv, hmade⟩

/-- The answer tells what the statement that has gone through has done to an account. -/
inductive Entry.Settles (e : Entry) : Statement → Prop
  | opens {draft : Registration} {passwordHash : String}
      (hdraft : IsPayload registration e.visit.request draft)
      (hhash : e.visit.app.shared.passwords.hash e.visit.moment.salt e.visit.app.shared.hashCost
        draft.password = .ok passwordHash)
      (hnews : e.news? = some (.opened draft.password)) :
      Settles e (.insertUser draft.username draft.email passwordHash e.visit.moment.now)
  | changes {p : Principal} {changes : AccountChanges} {passwordHash : Option String}
      (hchanges : IsPayload accountChanges e.visit.request changes)
      (hhash : changes.password.mapM (e.visit.app.shared.passwords.hash e.visit.moment.salt
        e.visit.app.shared.hashCost) = .ok passwordHash)
      (hnews : e.news? = changes.password.map (.changed p.userId)) :
      Settles e (.updateUser p.userId
        ⟨changes.username, changes.email, passwordHash, changes.bio, changes.image⟩
        e.visit.moment.now)

/-- The passwords are known, and no account is known but those that are there. -/
structure Passwords.Known (P : Visit → Prop) (k : Passwords) (s : Store) : Prop where
  accounts : k.accounts = s.lastUser
  opened : ∀ id, (k.last id).isSome = true → ∃ u ∈ s.users, u.id = id
  kept : ∀ u ∈ s.users, ∃ password, k.last u.id = some password ∧ u.Keeps P password

namespace Passwords.Known

variable {P : Visit → Prop} {k : Passwords} {s s' : Store}

theorem empty : Known P ⟨0, fun _ => none⟩ .empty :=
  ⟨rfl, nofun, List.forall_mem_nil _⟩

theorem congr (h : Known P k s) (hafter : s'.users = s.users) (hlast : s'.lastUser = s.lastUser) :
    Known P k s' := by
  obtain ⟨haccounts, hopened, hkept⟩ := h
  rw [← hafter] at hopened hkept
  exact ⟨haccounts.trans hlast.symm, hopened, hkept⟩

theorem write (h : Known P k s) {u : User} {password : String} (hu : u.Keeps P password)
    (hmem : u ∈ s'.users) (hrows : ∀ v ∈ s'.users, v = u ∨ v ∈ s.users ∧ v.id ≠ u.id)
    (hstay : ∀ v ∈ s.users, ∃ w ∈ s'.users, w.id = v.id) :
    Known P { k.set u.id password with accounts := s'.lastUser } s' := by
  refine ⟨rfl, fun id hsome => ?_, fun v hv => ?_⟩
  · by_cases hsame : id = u.id
    · exact ⟨u, hmem, hsame.symm⟩
    · rw [k.set_last_of_ne hsame] at hsome
      obtain ⟨v, hv, rfl⟩ := h.opened id hsome
      exact hstay v hv
  · rcases hrows v hv with rfl | ⟨hold, hother⟩
    · exact ⟨password, k.set_last_self _ _, hu⟩
    · rw [k.set_last_of_ne hother]
      exact h.kept v hold

theorem opens (h : Known P k s) (hs : s.Sound) {u : User} {password : String}
    (hid : u.id = s.lastUser + 1) (hu : u.Keeps P password)
    (hafter : s'.users = s.users ++ [u]) (hlast : s'.lastUser = u.id) :
    Known P { k.set (k.accounts + 1) password with accounts := k.accounts + 1 } s' := by
  have hnew : k.accounts + 1 = u.id := by rw [h.accounts, hid]
  rw [hnew, ← hlast]
  nth_rewrite 1 [hlast]
  have hmem : u ∈ s'.users := hafter ▸ List.mem_append_right _ (List.mem_singleton_self u)
  refine h.write hu hmem (fun v hv => ?_) fun v hv => ?_
  · rcases List.mem_append.mp (hafter ▸ hv) with hv | hv
    · -- a new number is not that of an account before
      have hle := hs.userIds_le v hv
      exact .inr ⟨hv, by omega⟩
    · exact .inl (List.mem_singleton.mp hv)
  · exact ⟨v, hafter ▸ List.mem_append_left _ hv, rfl⟩

theorem changes (h : Known P k s) {u u' : User} (hu : u ∈ s.users) {password : String}
    (hkeeps : u'.Keeps P password) (hid : u'.id = u.id)
    (hafter : s'.users = s.users.map fun v => if v.id = u.id then u' else v)
    (hlast : s'.lastUser = s.lastUser) : Known P (k.set u.id password) s' := by
  have haccounts : k.accounts = s'.lastUser := h.accounts.trans hlast.symm
  have hmem : u' ∈ s'.users := hafter ▸ List.mem_map.mpr ⟨u, hu, if_pos rfl⟩
  rw [← hid]
  suffices hwrite : Known P { k.set u'.id password with accounts := s'.lastUser } s' by
    rwa [← haccounts] at hwrite
  refine h.write hkeeps hmem (fun v hv => ?_) fun v hv => ?_
  · obtain ⟨w, hw, rfl⟩ := List.mem_map.mp (hafter ▸ hv)
    by_cases hsame : w.id = u.id
    · exact .inl (if_pos hsame)
    · rw [if_neg hsame, hid]
      exact .inr ⟨hw, hsame⟩
  · refine ⟨_, hafter ▸ List.mem_map_of_mem hv, ?_⟩
    split
    · rename_i hsame
      rw [hid, hsame]
    · rfl

theorem of_not_written (h : Known P k s) {q : Statement}
    (hnone : (⟨q, s⟩ : Turn).written? = none) : Known P k (q.after s) := by
  cases Turn.accounts ⟨q, s⟩ with
  | nothing _ hafter hlast => exact h.congr hafter hlast
  | opens _ hwritten => exact nomatch hnone.symm.trans hwritten
  | changes _ _ hwritten => exact nomatch hnone.symm.trans hwritten

/-- Each statement that writes a row of a user is told of when the request is answered. -/
theorem settled (h : Known P k s) (hs : s.Sound) {e : Entry} (he : P e.visit) {q : Statement}
    (hsettles : e.Settles q) {u : User}
    (hwritten : (⟨q, s⟩ : Turn).written? = some u) : Known P (k.note e) (q.after s) := by
  cases Turn.accounts ⟨q, s⟩ with
  | nothing hnone => exact nomatch hnone.symm.trans hwritten
  | opens hquery _ hu hafter hlast =>
      cases hsettles with
      | changes => exact nomatch hquery
      | @opens draft passwordHash hdraft hhash hnews =>
          cases hquery
          obtain ⟨-, hemail, hvalid⟩ := Registration.violations_eq_nil_iff.mp hdraft.2
          rw [Passwords.note, hnews]
          exact h.opens hs (hu ▸ rfl) ⟨hu ▸ hemail, hvalid, _, he, hu ▸ hhash⟩ hafter hlast
  | @changes old _ _ hold hquery _ hafter hlast =>
      cases hsettles with
      | opens => exact nomatch hquery
      | @changes p changes passwordHash hchanges hhash hnews =>
          obtain ⟨hid, rfl, rfl⟩ := Statement.updateUser.inj hquery
          obtain ⟨before, hbefore, hkeeps⟩ := h.kept old hold
          have hnote : k.note e = k.set old.id (changes.password.getD before) := by
            cases hpassword : changes.password with
            | none =>
                rw [hpassword] at hnews
                rw [k.note_of_quiet hnews, Option.getD_none, Passwords.set_eq_self hbefore]
            | some password =>
                rw [hpassword, hid] at hnews
                rw [Passwords.note, hnews]
                rfl
          rw [hnote]
          exact h.changes hold (hkeeps.change he hchanges.2 hhash _) rfl hafter hlast

end Passwords.Known

end Weblog
