import Weblog.Service.Handler

namespace Weblog.Accounts

open Handler

/-- The answer that shows the account of the user, with a new token. -/
def answer (shared : Shared) (m : Moment) (status : Nat) (u : User) : Response :=
  .json status (u.accountView (shared.tokens.issueAt u.id u.username m.now.seconds)).reply

def hash (shared : Shared) (m : Moment) (password : String) : ExceptT RequestError Session String :=
  ofExcept Bcrypt.Error.toRequestError (shared.passwords.hash m.salt shared.hashCost password)

/-- Fails the request if somebody has the value already. -/
def refuseIf (taken : Bool) (message : String) : ExceptT RequestError Session Unit :=
  if taken then throw (.badRequest message) else pure ()

/-- Opens an account. -/
def register (shared : Shared) (m : Moment) (r : Request) : Handler := do
  let draft ← payload registration r
  let byEmail ← work (Work.userByEmail draft.email)
  refuseIf byEmail.isSome "User with this email already exists"
  let byName ← work (Work.userByName draft.username)
  refuseIf byName.isSome "User with this username already exists"
  let passwordHash ← hash shared m draft.password
  let u ← work (Work.createUser draft.username draft.email passwordHash m.now)
  return answer shared m 201 u

/-- Answers with a token to whoever knows the password of the account. -/
def login (shared : Shared) (m : Moment) (r : Request) : Handler := do
  let given ← payload credentials r
  match ← work (Work.userByEmail given.email) with
  | none => throw (.unauthorized "Invalid email or password")
  | some u =>
    let matching ← ofExcept Bcrypt.Error.toRequestError
      (shared.passwords.verify given.password u.passwordHash)
    if matching then return answer shared m 200 u
    else throw (.unauthorized "Invalid email or password")

/-- Shows the account, with the token that came with the request. -/
def current (shared : Shared) (m : Moment) (r : Request) : Handler := do
  let p ← principal shared m r
  let u ← found "User not found" (← work (Work.user p.userId))
  return .json 200 (u.accountView p.token).reply

/-- Fails the request if somebody else than the user has the value that is looked up. -/
def refuseForeign (userId : Int) (value : Option String) (lookup : String → Work (Option User))
    (message : String) : ExceptT RequestError Session Unit :=
  match value with
  | none => pure ()
  | some value => do
    let row ← work (lookup value)
    refuseIf (row.any (·.id != userId)) message

/-- What a refused change of an account means. -/
def changeRefusal : StoreError → RequestError
  | .notFound => .notFound "User not found"
  | e => e.toRequestError

/-- Makes the changes to the account of the user. -/
def change (shared : Shared) (m : Moment) (userId : Int) (changes : AccountChanges) : Handler := do
  refuseForeign userId changes.email Work.userByEmail "Email already exists"
  refuseForeign userId changes.username Work.userByName "Username already exists"
  let passwordHash ← changes.password.mapM (hash shared m)
  let columns : UserChanges :=
    ⟨changes.username, changes.email, passwordHash, changes.bio, changes.image⟩
  let u ← workWith changeRefusal (Work.updateUser userId columns m.now)
  return answer shared m 200 u

/-- Changes the account; without changes, shows it. -/
def update (shared : Shared) (m : Moment) (r : Request) : Handler := do
  let p ← principal shared m r
  let changes ← payload accountChanges r
  if changes.isEmpty then
    let u ← found "User not found" (← work (Work.user p.userId))
    return answer shared m 200 u
  else change shared m p.userId changes

def profile (username : String) : Handler := do
  let username ← parameter "username" username
  let u ← found "Profile not found" (← work (Work.userByName username))
  return .json 200 u.profile.reply

end Weblog.Accounts
