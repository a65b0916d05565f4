import Weblog.RequestError

namespace Weblog

open Weblog.Text

/-- The user for whom a request is made, with the token that says so. -/
structure Principal where
  userId : Int
  username : String
  token : String
deriving Repr, DecidableEq

namespace Principal

/-- The word before a token. -/
def scheme : String := "Token "

/-- A character that may stand in the value of a header. -/
def isHeaderChar (c : Char) : Bool :=
  c == '\t' || (' ' ≤ c && c ≤ '~')

/-- The token in the value of an authorization header. -/
def token? (value : String) : Except RequestError String :=
  let cs := value.toList
  if cs.all isHeaderChar && scheme.toList.isPrefixOf cs then
    match trim (cs.drop scheme.length) with
    | [] => .error (.unauthorized "Missing token")
    | token => .ok (String.ofList token)
  else .error (.unauthorized "Invalid authorization header format")

/-- The user whose token the first authorization header shows. -/
def ofHeaders (service : TokenService) (now : Nat) (values : List String) :
    Except RequestError Principal :=
  match values with
  | [] => .error (.unauthorized "Missing authorization header")
  | value :: _ => do
    let token ← token? value
    match service.verify now token with
    | .ok claims => .ok ⟨claims.userId, claims.username, token⟩
    | .error e => .error e.toRequestError

/-- No service has been set up to read tokens. -/
def noService : RequestError := .internal "TokenService extension is not installed"

/-- A principal found before is not asked for a second time. -/
def remembered (found : Option Principal) (service : Option TokenService) (now : Nat)
    (values : List String) : Except RequestError Principal :=
  match found, service with
  | some principal, _ => .ok principal
  | none, some service => ofHeaders service now values
  | none, none => .error noService

end Principal

end Weblog
