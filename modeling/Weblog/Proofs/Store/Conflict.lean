import Mathlib.Data.List.Pairwise
import Weblog.Proofs.Store.Work
import Weblog.Proofs.Text.Case

namespace Weblog

open Session Settings Text

namespace Store

/-- No two users have the same name, or email addresses that the store takes for each other. -/
structure UsersDiffer (s : Store) : Prop where
  usernames : (s.users.map User.username).Nodup
  emails : s.users.Pairwise fun u v => equalFold u.email v.email = false

/-- A user other than `except` has the email address, up to the case of letters of ASCII. -/
def HoldsEmail (s : Store) (except : Option Int) (email : String) : Prop :=
  ∃ u ∈ s.users, except ≠ some u.id ∧ eqIgnoringCase u.email email = true

/-- A user other than `except` has exactly the name. -/
def HoldsName (s : Store) (except : Option Int) (username : String) : Prop :=
  ∃ u ∈ s.users, except ≠ some u.id ∧ u.username = username

/-- The row that a new account becomes. -/
def newUser (s : Store) (username email passwordHash : String) (now : Instant) : User :=
  ⟨s.lastUser + 1, username, email, passwordHash, "", "", now, now⟩

/-- The store with one more user. -/
def withUser (s : Store) (u : User) : Store :=
  { s with users := s.users ++ [u], lastUser := u.id }

/-- The store with the row in the place of that with its number. -/
def withAccount (s : Store) (u : User) : Store :=
  { s with users := s.users.map fun v => if v.id = u.id then u else v }

/-- The work writes the row if neither value is taken. Else it is refused, for the email address
if that is taken and for the name if only the name is, and the store stays as it was. -/
structure WritesUnlessTaken (s : Store) (emailTaken nameTaken : Prop) (u : User) (s' : Store)
    (x : Except StoreError User × Store) : Prop where
  email_iff : x.1 = .error (.conflict .email) ↔ emailTaken
  username_iff : x.1 = .error (.conflict .username) ↔ ¬ emailTaken ∧ nameTaken
  eq_ok : ¬ emailTaken → ¬ nameTaken → x = (.ok u, s')
  kept : ∀ e, x.1 = .error e → x.2 = s

/-- What is answered to a change of the account with the number. -/
structure AnswersChange (s : Store) (id : Int) (changes : UserChanges) (now : Instant)
    (x : Except StoreError User × Store) : Prop where
  notFound_iff : x.1 = .error .notFound ↔ ∀ u ∈ s.users, u.id ≠ id
  kept : ∀ e, x.1 = .error e → x.2 = s
  writes : (∃ u ∈ s.users, u.id = id) → ∃ u ∈ s.users, u.id = id ∧
    WritesUnlessTaken s (∃ e ∈ changes.email, s.HoldsEmail (some id) e)
      (∃ n ∈ changes.username, s.HoldsName (some id) n)
      (changeUser u changes now) (s.withAccount (changeUser u changes now)) x
  saves_own : ∀ u ∈ s.users, u.id = id →
    (∀ e ∈ changes.email, eqIgnoringCase u.email e = true) →
      (∀ n ∈ changes.username, n = u.username) →
        ∃ u ∈ s.users, u.id = id ∧
          x = (.ok (changeUser u changes now), s.withAccount (changeUser u changes now))

variable {s : Store} {u : User}

theorem Sound.usersDiffer (hs : s.Sound) : s.UsersDiffer :=
  ⟨hs.usernames, hs.emails⟩

theorem UsersDiffer.eq_of_equalFold (hs : s.UsersDiffer) {v : User} (hu : u ∈ s.users)
    (hv : v ∈ s.users) (h : equalFold u.email v.email = true) : u = v := by
  have : Std.Symm fun u v : User => equalFold u.email v.email = false :=
    ⟨fun u v huv => (equalFold_comm v.email u.email).trans huv⟩
  by_contra hne
  have hdiffer := hs.emails.forall hu hv hne
  rw [h] at hdiffer
  exact nomatch hdiffer

theorem UsersDiffer.userByEmail?_eq (hs : s.UsersDiffer) (hu : u ∈ s.users) {email : String}
    (hemail : equalFold u.email email = true) : s.userByEmail? email = some u := by
  cases hfind : s.userByEmail? email with
  | none => exact absurd hemail (List.find?_eq_none.mp hfind u hu)
  | some v =>
      have hv : equalFold v.email email = true := by simpa using List.find?_some hfind
      have hsame : equalFold v.email u.email = true := by
        rw [equalFold_congr hv, equalFold_comm, hemail]
      rw [hs.eq_of_equalFold (List.mem_of_find?_eq_some hfind) hu hsame]

theorem UsersDiffer.own_not_held (hs : s.UsersDiffer) (hu : u ∈ s.users) :
    (∀ e, eqIgnoringCase u.email e = true → ¬ s.HoldsEmail (some u.id) e) ∧
      ¬ s.HoldsName (some u.id) u.username := by
  constructor
  · rintro e hown ⟨v, hv, hne, hemail⟩
    have hsame : equalFold v.email u.email = true := by
      rw [equalFold_congr (equalFold_of_eqIgnoringCase hemail), equalFold_comm]
      exact equalFold_of_eqIgnoringCase hown
    rw [hs.eq_of_equalFold hv hu hsame] at hne
    exact hne rfl
  · rintro ⟨v, hv, hne, hname⟩
    rw [List.inj_on_of_nodup_map hs.usernames hv hu hname] at hne
    exact hne rfl

/-- The look at the email address tells whether another user has it. -/
theorem UsersDiffer.conflictingField_eq (hs : s.UsersDiffer) (email : Option String)
    (hnul : ∀ e ∈ email, '\x00' ∉ e.toList) (except : Option Int) :
    (s.conflictingField email except = .email ∧ ∃ e ∈ email, s.HoldsEmail except e) ∨
      (s.conflictingField email except = .username ∧ ¬ ∃ e ∈ email, s.HoldsEmail except e) := by
  cases email with
  | none => exact .inr ⟨rfl, by simp⟩
  | some e =>
      have hnul := hnul e rfl
      simp only [Option.mem_some_iff, exists_eq_left', conflictingField, Option.bind_some]
      cases hfind : s.userByEmail? e with
      | none =>
          refine .inr ⟨rfl, ?_⟩
          rintro ⟨v, hv, -, hemail⟩
          rw [hs.userByEmail?_eq hv (equalFold_of_eqIgnoringCase hemail)] at hfind
          cases hfind
      | some u =>
          have hu : u ∈ s.users := List.mem_of_find?_eq_some hfind
          have hemail : equalFold u.email e = true := by simpa using List.find?_some hfind
          by_cases hown : except = some u.id
          · refine .inr ⟨if_pos hown, ?_⟩
            rintro ⟨v, hv, hother, hvemail⟩
            rw [hs.userByEmail?_eq hv (equalFold_of_eqIgnoringCase hvemail)] at hfind
            obtain rfl := Option.some.inj hfind
            exact hother hown
          · exact .inl ⟨if_neg hown, u, hu, hown, (equalFold_iff_eqIgnoringCase hnul).mp hemail⟩

theorem userConflict?_newUser_eq_none_iff (username : String) {email : String}
    (hnul : '\x00' ∉ email.toList) (passwordHash : String) (now : Instant) :
    userConflict? s.users (s.newUser username email passwordHash now) = none ↔
      ¬ s.HoldsEmail none email ∧ ¬ s.HoldsName none username := by
  rw [userConflict?_eq_none_iff]
  constructor
  · intro hfree
    constructor
    · rintro ⟨v, hv, -, hemail⟩
      exact Bool.eq_false_iff.mp (hfree v hv).2 (equalFold_of_eqIgnoringCase hemail)
    · rintro ⟨v, hv, -, hname⟩
      exact (hfree v hv).1 hname
  · rintro ⟨hemail, hname⟩ v hv
    constructor
    · intro hsame
      exact hname ⟨v, hv, nofun, hsame⟩
    · rw [Bool.eq_false_iff]
      intro hsame
      exact hemail ⟨v, hv, nofun, (equalFold_iff_eqIgnoringCase hnul).mp hsame⟩

theorem UsersDiffer.userConflict?_changeUser_eq_none_iff (hs : s.UsersDiffer) (hu : u ∈ s.users)
    {changes : UserChanges} (hnul : ∀ e ∈ changes.email, '\x00' ∉ e.toList) (now : Instant) :
    userConflict? (s.users.filter (·.id != u.id)) (changeUser u changes now) = none ↔
      (¬ ∃ e ∈ changes.email, s.HoldsEmail (some u.id) e) ∧
        ¬ ∃ n ∈ changes.username, s.HoldsName (some u.id) n := by
  rw [userConflict?_eq_none_iff]
  constructor
  · intro hfree
    have hother : ∀ v ∈ s.users, some u.id ≠ some v.id → v ∈ s.users.filter (·.id != u.id) := by
      intro v hv hne
      exact List.mem_filter.mpr ⟨hv, bne_iff_ne.mpr fun hid => hne (congrArg some hid.symm)⟩
    constructor
    · rintro ⟨e, he, v, hv, hne, hemail⟩
      have hdiffer := (hfree v (hother v hv hne)).2
      rw [changeUser, Option.mem_def.mp he, Option.getD_some] at hdiffer
      exact Bool.eq_false_iff.mp hdiffer (equalFold_of_eqIgnoringCase hemail)
    · rintro ⟨n, hn, v, hv, hne, hname⟩
      have hdiffer := (hfree v (hother v hv hne)).1
      rw [changeUser, Option.mem_def.mp hn, Option.getD_some] at hdiffer
      exact hdiffer hname
  · rintro ⟨hemail, hname⟩ v hv
    obtain ⟨hv, hid⟩ := List.mem_filter.mp hv
    have hne : v.id ≠ u.id := by simpa using hid
    have hother : some u.id ≠ some v.id := by simpa using hne.symm
    constructor
    · intro hsame
      cases hn : changes.username with
      | none =>
          rw [changeUser, hn, Option.getD_none] at hsame
          exact hne (congrArg User.id (List.inj_on_of_nodup_map hs.usernames hv hu hsame))
      | some n =>
          rw [changeUser, hn, Option.getD_some] at hsame
          exact hname ⟨n, hn, v, hv, hother, hsame⟩
    · rw [Bool.eq_false_iff]
      intro hsame
      cases he : changes.email with
      | none =>
          rw [changeUser, he, Option.getD_none] at hsame
          exact hne (congrArg User.id (hs.eq_of_equalFold hv hu hsame))
      | some e =>
          rw [changeUser, he, Option.getD_some] at hsame
          exact hemail ⟨e, he, v, hv, hother,
            (equalFold_iff_eqIgnoringCase (hnul e he)).mp hsame⟩

theorem insertUser_eq (username email passwordHash : String) (now : Instant) (s : Store) :
    s.insertUser username email passwordHash now =
      match userConflict? s.users (s.newUser username email passwordHash now) with
      | some field => .error (.repeated field)
      | none => .ok (s.newUser username email passwordHash now,
          s.withUser (s.newUser username email passwordHash now)) := rfl

theorem updateUser_eq {id : Int} (hu : s.user? id = some u) (changes : UserChanges)
    (now : Instant) :
    s.updateUser id changes now =
      match userConflict? (s.users.filter (·.id != u.id)) (changeUser u changes now) with
      | some field => .error (.repeated field)
      | none => .ok (some (changeUser u changes now), s.withAccount (changeUser u changes now)) := by
  obtain rfl : u.id = id := by simpa using List.find?_some hu
  rw [updateUser, hu]
  rfl

theorem writesUnlessTaken_of {emailTaken nameTaken : Prop} {s' : Store}
    {conflict : Option UniqueField} {field : UniqueField} {x : Except StoreError User × Store}
    (hconflict : conflict = none ↔ ¬ emailTaken ∧ ¬ nameTaken)
    (hfield : field = .email ∧ emailTaken ∨ field = .username ∧ ¬ emailTaken)
    (hfree : conflict = none → x = (.ok u, s'))
    (htaken : ∀ column, conflict = some column → x = (.error (.conflict field), s)) :
    WritesUnlessTaken s emailTaken nameTaken u s' x := by
  cases conflict with
  | none =>
      obtain ⟨hemail, hname⟩ := hconflict.mp rfl
      rw [hfree rfl]
      exact ⟨by simp [hemail], by simp [hname], fun _ _ => rfl, nofun⟩
  | some column =>
      have hnot : ¬ (¬ emailTaken ∧ ¬ nameTaken) := fun h => nomatch hconflict.mpr h
      rw [htaken column rfl]
      rcases hfield with ⟨rfl, hemail⟩ | ⟨rfl, hemail⟩
      · exact ⟨by simp [hemail], by simp [hemail], fun h => absurd hemail h, fun _ _ => rfl⟩
      · have hname : nameTaken := by simpa [hemail] using hnot
        exact ⟨by simp [hemail], by simp [hemail, hname], fun _ h => absurd hname h,
          fun _ _ => rfl⟩

theorem WritesUnlessTaken.ne_notFound {emailTaken nameTaken : Prop} {s' : Store}
    {x : Except StoreError User × Store} (h : WritesUnlessTaken s emailTaken nameTaken u s' x) :
    x.1 ≠ .error .notFound := by
  by_cases hemail : emailTaken
  · rw [h.email_iff.mpr hemail]
    nofun
  by_cases hname : nameTaken
  · rw [h.username_iff.mpr ⟨hemail, hname⟩]
    nofun
  · rw [h.eq_ok hemail hname]
    nofun

end Store

namespace Work

open Store

variable {s : Store}

theorem createUser_writes (hs : s.UsersDiffer) (username : String) {email : String}
    (hnul : '\x00' ∉ email.toList) (passwordHash : String) (now : Instant) :
    WritesUnlessTaken s (s.HoldsEmail none email) (s.HoldsName none username)
      (s.newUser username email passwordHash now)
      (s.withUser (s.newUser username email passwordHash now))
      (outcome (createUser username email passwordHash now) s) := by
  have hfield := hs.conflictingField_eq (some email) (by simpa using hnul) none
  simp only [Option.mem_some_iff, exists_eq_left'] at hfield
  rw [outcome_createUser, insertUser_eq]
  refine writesUnlessTaken_of
    (userConflict?_newUser_eq_none_iff username hnul passwordHash now) hfield ?_ ?_
  · intro h
    rw [h]
  · intro column h
    rw [h]

theorem updateUser_writes (hs : s.UsersDiffer) {id : Int} {u : User} (hu : s.user? id = some u)
    {changes : UserChanges} (hnul : ∀ e ∈ changes.email, '\x00' ∉ e.toList) (now : Instant) :
    WritesUnlessTaken s (∃ e ∈ changes.email, s.HoldsEmail (some id) e)
      (∃ n ∈ changes.username, s.HoldsName (some id) n)
      (changeUser u changes now) (s.withAccount (changeUser u changes now))
      (outcome (updateUser id changes now) s) := by
  have hmem : u ∈ s.users := List.mem_of_find?_eq_some hu
  obtain rfl : u.id = id := by simpa using List.find?_some hu
  rw [outcome_updateUser, updateUser_eq hu]
  refine writesUnlessTaken_of (hs.userConflict?_changeUser_eq_none_iff hmem hnul now)
    (hs.conflictingField_eq changes.email hnul (some u.id)) ?_ ?_
  · intro h
    rw [h]
  · intro column h
    rw [h]

theorem outcome_updateUser_of_missing {id : Int} (hu : s.user? id = none) (changes : UserChanges)
    (now : Instant) : outcome (updateUser id changes now) s = (.error .notFound, s) := by
  rw [outcome_updateUser, Store.updateUser, hu]

end Work

open Store

theorem Store.UsersDiffer.answersChange {s : Store} (hs : s.UsersDiffer) (id : Int)
    {changes : UserChanges} (hnul : ∀ e ∈ changes.email, '\x00' ∉ e.toList) (now : Instant) :
    AnswersChange s id changes now (outcome (Work.updateUser id changes now) s) := by
  cases hfind : s.user? id with
  | none =>
      have hmissing : ∀ u ∈ s.users, u.id ≠ id := by simpa [user?] using hfind
      rw [Work.outcome_updateUser_of_missing hfind]
      refine ⟨by simpa using hmissing, fun _ _ => rfl, ?_, ?_⟩
      · rintro ⟨u, hu, hid⟩
        exact absurd hid (hmissing u hu)
      · intro u hu hid
        exact absurd hid (hmissing u hu)
  | some u =>
      have hu : u ∈ s.users := List.mem_of_find?_eq_some hfind
      have hid : u.id = id := by simpa using List.find?_some hfind
      have hwrites := Work.updateUser_writes hs hfind hnul now
      refine ⟨?_, hwrites.kept, fun _ => ⟨u, hu, hid, hwrites⟩, ?_⟩
      · exact iff_of_false hwrites.ne_notFound fun hmissing => hmissing u hu hid
      · rintro v hv rfl hemail hname
        refine ⟨u, hu, hid, hwrites.eq_ok ?_ ?_⟩
        · rintro ⟨e, he, hheld⟩
          exact (hs.own_not_held hv).1 e (hemail e he) hheld
        · rintro ⟨n, hn, hheld⟩
          rw [hname n hn] at hheld
          exact (hs.own_not_held hv).2 hheld

/-- An account is opened, and changed, unless a value for it is taken; where both are, it is the
email address that is told. A change leaves aside the values that the account has itself. -/
theorem account_conflicts_exact {s : Store} (hs : s.UsersDiffer) :
    (∀ username email passwordHash now, '\x00' ∉ email.toList →
      WritesUnlessTaken s (s.HoldsEmail none email) (s.HoldsName none username)
        (s.newUser username email passwordHash now)
        (s.withUser (s.newUser username email passwordHash now))
        (outcome (Work.createUser username email passwordHash now) s)) ∧
      ∀ id changes now, (∀ e ∈ changes.email, '\x00' ∉ e.toList) →
        AnswersChange s id changes now (outcome (Work.updateUser id changes now) s) := by
  constructor
  · intro username email passwordHash now hnul
    exact Work.createUser_writes hs username hnul passwordHash now
  · intro id changes now hnul
    exact hs.answersChange id hnul now

namespace Sample

def epoch : Instant := ⟨0, 0⟩

def firstUser : User := ⟨1, "alice", "a@b.co", "secret", "", "", epoch, epoch⟩

def secondUser : User := ⟨2, "bob", "b@b.co", "secret", "", "", epoch, epoch⟩

def twoUsers : Store := ⟨[firstUser, secondUser], [], [], 2, 0, 0⟩

/-- The address of the first user, in capital letters, and the name of the second. -/
def mixedChanges : UserChanges := ⟨some "bob", some "A@B.CO", none, none, none⟩

end Sample

open Sample in
theorem account_conflicts_exact_mixed :
    twoUsers.UsersDiffer ∧
      (outcome (Work.createUser "bob" "A@B.CO" "secret" epoch) twoUsers).1 =
        .error (.conflict .email) ∧
      (outcome (Work.updateUser 1 mixedChanges epoch) twoUsers).1 =
        .error (.conflict .username) := by
  have hs : twoUsers.UsersDiffer := ⟨by decide, by decide⟩
  have hfirst : firstUser ∈ twoUsers.users := List.mem_cons_self
  have hsecond : secondUser ∈ twoUsers.users := List.mem_cons_of_mem _ List.mem_cons_self
  obtain ⟨hopen, hchange⟩ := account_conflicts_exact hs
  refine ⟨hs, ?_, ?_⟩
  · apply (hopen "bob" "A@B.CO" "secret" epoch (by decide)).email_iff.mpr
    exact ⟨firstUser, hfirst, nofun, by decide⟩
  · have hnul : ∀ e ∈ mixedChanges.email, '\x00' ∉ e.toList := by
      rintro _ ⟨⟩
      decide
    obtain ⟨u, -, -, hwrites⟩ := (hchange 1 mixedChanges epoch hnul).writes ⟨firstUser, hfirst, rfl⟩
    apply hwrites.username_iff.mpr
    constructor
    · rintro ⟨_, ⟨⟩, hheld⟩
      exact (hs.own_not_held hfirst).1 "A@B.CO" (by decide) hheld
    · exact ⟨"bob", rfl, secondUser, hsecond, by decide, rfl⟩

end Weblog
