import Weblog.Digest.Sha256
import Weblog.Reply.Reading
import Weblog.Reply.Writing
import Weblog.Settings
import Weblog.Text.Base64
import Weblog.Text.Split
import Weblog.Token.Header

/-!
Tokens: claims about a user, signed so that nobody else can make them, and good for a time. The
service keeps no record of them. A token is read in three ways, which check the same things:
all its claims, the number of its user, and the name of its user.
-/

namespace Weblog

open Weblog.Json Weblog.Text

def issuerName : String := "conduit-api"

/-- What signs tokens and how long they are good, in seconds. -/
structure TokenService where
  secret : String
  lifetime : Nat
deriving Repr, DecidableEq

/-- Why a token does not do. -/
inductive TokenError where
  | expired
  | invalid
  | missingClaim (name : String)
  | signing (reason : String)
deriving Repr, DecidableEq

def TokenError.message : TokenError → String
  | .expired => "Token has expired"
  | .invalid => "Invalid token"
  | .missingClaim name => s!"Token is missing the {name} claim"
  | .signing reason => s!"Failed to sign token: {reason}"

namespace Token

/-- The greatest signed number of 64 bits. -/
def greatestTime : Int := Int.ofNat (Nat.pow 2 63 - 1)

/-- The text with the signature of the secret. -/
def sign (secret header payload : String) : String :=
  let text := Base64.encode Base64.url (Utf8.encode header) ++
    '.' :: Base64.encode Base64.url (Utf8.encode payload)
  let code := Sha256.code (Utf8.encode secret) (Utf8.encode (String.ofList text))
  String.ofList (text ++ '.' :: Base64.encode Base64.url code)

/-- The one algorithm that signs tokens. -/
def algorithm : String := "HS256"

/-- The header of every token. -/
def header : String :=
  (Value.object [("typ", .string "JWT"), ("alg", .string algorithm)]).render

def decode? (bytes : Bytes) : Option Bytes :=
  (Base64.decode Base64.url bytes).toOption

/-- The parts of a token: the header, the payload, and the signature. -/
def split? (token : Bytes) : Option (Bytes × Bytes × Bytes) := do
  let (text, signature) ← splitLast? (byte '.') token
  let (header, payload) ← splitLast? (byte '.') text
  return (header, payload, signature)

/-- The payload of a token that the secret has signed. -/
def payload? (secret token : String) : Option Bytes := do
  let (header, payload, signature) ← split? (Utf8.encode token)
  let algorithm ← headerAlgorithm? (← decode? header)
  let code := Sha256.code (Utf8.encode secret) (header ++ byte '.' :: payload)
  if algorithm = Token.algorithm ∧ (← decode? signature) = code then decode? payload else none

/-- The claims that every reader checks. -/
structure Registered where
  expiresAt : Nat
  notBefore : Nat
  issuers : List String
  /-- The token is meant for somebody. -/
  hasAudience : Bool

/-- A date of a token. -/
def date? (bytes : Bytes) : Option Nat := do
  (← numeral? bytes).date?

/-- A string, or a list of strings. -/
def strings? (bytes : Bytes) : Option (List String) :=
  match string? bytes with
  | some s => some [s]
  | none => list? string? bytes

def firstByte? (bytes : Bytes) : Option UInt8 :=
  (skipSpace bytes).head?

/-- Whether a claim names those whom a token is meant for. It is read as a string or a list of
strings; a value of another type counts for nothing, unless it cannot be read at all. -/
def audience? (bytes : Bytes) : Option Bool :=
  let first := firstByte? bytes
  if first = some (byte '"') ∨ first = some (byte '[') ∨ first = some (byte '\x7b') then
    if isPlain 126 bytes then some (strings? bytes).isSome else none
  else some false

def registered? (payload : Bytes) : Option Registered := do
  match ← fields? ["exp", "nbf", "sub", "iss", "aud"] false payload with
  | [some exp, some nbf, some sub, some iss, aud] =>
    let _ ← string? sub
    let hasAudience ← match aud with
      | some aud => audience? aud
      | none => some false
    return ⟨← date? exp, ← date? nbf, ← strings? iss, hasAudience⟩
  | _ => none

/-- The token is good now. -/
def check (now : Nat) (claims : Registered) : Except TokenError Unit :=
  if claims.expiresAt < now then .error .expired
  else if now < claims.notBefore then .error .invalid
  else if !claims.issuers.contains issuerName then .error .invalid
  else if claims.hasAudience then .error .invalid
  else .ok ()

/-- Reads the payload of a token that the secret has signed and that is good now. -/
def checked (secret : String) (read : Bytes → Option α) (now : Nat) (token : String) :
    Except TokenError α :=
  match payload? secret token with
  | none => .error .invalid
  | some payload =>
    match document? read payload with
    | none => .error .invalid
    | some a =>
      match registered? payload with
      | none => .error .invalid
      | some claims =>
        match check now claims with
        | .error e => .error e
        | .ok () => .ok a

/-- The members of an object of which every part can be kept. -/
def plainMembers? (bytes : Bytes) : Option (List (String × Bytes)) :=
  if isPlain 127 bytes then members? bytes else none

end Token

namespace TokenService

open Token

def ofSettings (settings : Settings) : TokenService :=
  ⟨settings.tokenSecret, settings.tokenLifetime.seconds⟩

/-- The claims of a token issued at a time: it is good from then on, to the end of its lifetime
or of time. -/
def claimsAt (service : TokenService) (userId : Int) (username : String) (time : Int) : Claims where
  userId := userId
  username := username
  issuedAt := time
  notBefore := time
  expiresAt := min (time + min (service.lifetime : Int) greatestTime) greatestTime
  issuer := issuerName
  subject := "user:" ++ String.ofList (decimal userId)

/-- A token for the user. -/
def issueAt (service : TokenService) (userId : Int) (username : String) (time : Int) : String :=
  sign service.secret header (service.claimsAt userId username time).toJson.render

/-- The claims of a token that is good now. -/
def verify (service : TokenService) (now : Nat) (token : String) : Except TokenError Claims :=
  checked service.secret Claims.read? now token

/-- A claim of a token that is good now, whatever other claims it has. -/
def claim (service : TokenService) (name : String) (read : Bytes → Option α) (now : Nat)
    (token : String) : Except TokenError α := do
  let members ← checked service.secret plainMembers? now token
  match (lastMember? members name).bind read with
  | some a => .ok a
  | none => .error (.missingClaim name)

/-- The number of the user of a token that is good now. -/
def userId (service : TokenService) (now : Nat) (token : String) : Except TokenError Int :=
  service.claim "user_id" int? now token

/-- The name of the user of a token that is good now. -/
def username (service : TokenService) (now : Nat) (token : String) : Except TokenError String :=
  service.claim "username" string? now token

end TokenService

end Weblog
