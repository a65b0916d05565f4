import Weblog.Http.Host
import Weblog.Text.Blank

namespace Weblog

open Weblog.Host

/-- Why an address is no origin. -/
inductive OriginError where
  | invalid (address : String) (fault : Fault)
  | noHost (address : String)
deriving Repr, DecidableEq

/-- The error in words, and its cause. -/
def OriginError.messages : OriginError → List String
  | .invalid address fault => [s!"Invalid CORS origin: {address}", fault.message]
  | .noHost address => [s!"CORS origin must include a valid host: {address}"]

namespace Origin

/-- The characters of an address that count: control characters and blanks at its ends are left
out, and so are line ends and tabs anywhere. -/
def significant (address : String) : List Char :=
  (Text.dropEndWhile (· ≤ ' ') (address.toList.dropWhile (· ≤ ' '))).filter
    fun c => c != '\t' && c != '\n' && c != '\r'

def isSchemeChar (c : Char) : Bool :=
  c.isAlphanum || c == '+' || c == '-' || c == '.'

/-- The scheme in small letters, and what follows its colon. -/
def scheme? (cs : List Char) : Option (String × List Char) :=
  match cs.dropWhile isSchemeChar with
  | ':' :: rest =>
    if cs.head?.any Char.isAlpha then
      some (String.ofList ((cs.takeWhile isSchemeChar).map Char.toLower), rest)
    else none
  | _ => none

/-- Schemes whose hosts are machines, each with the port that goes without saying. -/
def defaultPorts : List (String × Nat) :=
  [("http", 80), ("https", 443), ("ws", 80), ("wss", 443), ("ftp", 21)]

/-- The part of an address that names a host is over. -/
def endsAuthority (isSpecial : Bool) (c : Char) : Bool :=
  c == '/' || c == '?' || c == '#' || (isSpecial && c == '\\')

/-- The characters after a colon outside brackets, and those before it. -/
def splitPort (inBrackets : Bool) : List Char → List Char × Option (List Char)
  | [] => ([], none)
  | c :: rest =>
    if c = ':' ∧ inBrackets = false then ([], some rest)
    else
      let inBrackets := if c = '[' then true else if c = ']' then false else inBrackets
      let (host, port) := splitPort inBrackets rest
      (c :: host, port)

def greatestPort : Nat := 65535

/-- The port, if it must be said. -/
def port (default : Option Nat) (cs : List Char) : Except Fault (Option Nat) :=
  let digits := cs.takeWhile fun c => c != '\\'
  if digits.all Char.isDigit && ofDigits 10 digits ≤ greatestPort then
    .ok (if digits.isEmpty || some (ofDigits 10 digits) == default then none
      else some (ofDigits 10 digits))
  else .error .port

/-- Those before the last sign of the kind, if there is one, and what follows it. -/
def splitUser (cs : List Char) : Option (List Char) × List Char :=
  match Text.splitLast? '@' cs with
  | some (user, rest) => (some user, rest)
  | none => (none, cs)

/-- The user of an address is told: a name, or a password. -/
def hasUser (user : Option (List Char)) : Bool :=
  user.any fun u => u != [] && u != [':']

/-- The origin of a host that may have a user before it and a port behind it; `none` stands for
an address without a host. -/
def ofAuthority (scheme : String) (cs : List Char) : Except Fault (Option String) :=
  let default := defaultPorts.lookup scheme
  let isSpecial := default.isSome
  let authority := cs.takeWhile (!endsAuthority isSpecial ·)
  let (user, rest) := splitUser authority
  -- a sign for a user with nothing on either side, and a path behind it
  if user = some [] ∧ rest.isEmpty ∧ authority.length < cs.length then .error .emptyHost
  else do
    let (name, after) := splitPort false rest
    if name.isEmpty && (isSpecial || after.isSome || hasUser user) then .error .emptyHost
    else
      let host ← if isSpecial then special name else plain name
      let number ← match after with
        | some digits => port default digits
        | none => .ok none
      let suffix := match number with
        | some n => ':' :: Nat.toDigits 10 n
        | none => []
      return if host.isEmpty then none
        else some (scheme ++ "://" ++ String.ofList (host ++ suffix))

/-- A letter and a colon or a bar, which name a drive. -/
def isDrive (cs : List Char) : Bool :=
  match cs with
  | [letter, sign] => letter.isAlpha && (sign == ':' || sign == '|')
  | _ => false

/-- The origin of the host of a file. No host is told of a file on a drive, or of one that is
where it is asked for. -/
def ofFile (cs : List Char) : Except Fault (Option String) := do
  match cs with
  | a :: b :: rest =>
    if (a = '/' ∨ a = '\\') ∧ (b = '/' ∨ b = '\\') then
      let name := rest.takeWhile (!endsAuthority true ·)
      if name.isEmpty || isDrive name then return none
      else
        let host ← special name
        let path := (rest.drop name.length).drop 1
        -- a drive may come behind a host too, which then does not count
        if host = "localhost".toList ∨ isDrive (path.takeWhile (!endsAuthority true ·)) = true then
          return none
        else return some ("file://" ++ String.ofList host)
    else return none
  | _ => return none

/-- The origin of an address with the scheme. -/
def ofScheme (scheme : String) (cs : List Char) : Except Fault (Option String) :=
  if scheme = "file" then ofFile cs
  else if (defaultPorts.lookup scheme).isSome then
    ofAuthority scheme (cs.dropWhile fun c => c == '/' || c == '\\')
  else
    match cs with
    | '/' :: '/' :: rest => ofAuthority scheme rest
    | _ => .ok none

/-- The origin of an address. -/
def normalize (address : String) : Except OriginError String :=
  match scheme? (significant address) with
  | none => .error (.invalid address .noScheme)
  | some (scheme, rest) =>
    match ofScheme scheme rest with
    | .error fault => .error (.invalid address fault)
    | .ok none => .error (.noHost address)
    | .ok (some origin) => .ok origin

end Origin

end Weblog
