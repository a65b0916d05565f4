/-!
The media type of a body: a type and a subtype with a slash between them, and parameters after
semicolons. A suffix of the subtype, after its last plus sign, names a format that it builds on.
-/

namespace Weblog.MediaType

/-- A character of a name or of a value without quotes. -/
def isTokenChar (c : Char) : Bool :=
  c.isAlphanum || "!#$%&'+-.^_`|~".toList.contains c

/-- A character of a value in quotes. -/
def isQuotedChar (c : Char) : Bool :=
  ' ' ≤ c && c != '\x7f' && c.toNat < 0x80

/-- The text after a value in quotes, of which `started` says that it has a character. -/
def afterQuoted (started : Bool) : List Char → Option (List Char)
  | [] => none
  | c :: rest =>
    if c = '"' ∧ started = true then some rest
    else if isQuotedChar c then afterQuoted true rest
    else none

/-- What follows the value of a parameter: its text from the next parameter on. -/
def afterValue (cs : List Char) : Option (List Char) :=
  match cs with
  | '"' :: rest => do
    match (← afterQuoted false rest).dropWhile (· == ' ') with
    | [] => some []
    | ';' :: rest => some rest
    | _ => none
  | _ =>
    match cs.dropWhile isTokenChar with
    | [] => some []
    | ';' :: rest => if cs.head?.any isTokenChar then some rest else none
    | _ => none

/-- The parameters are well formed; `fuel` is at least their length. -/
def areParameters : (fuel : Nat) → List Char → Bool
  | 0, cs => cs.isEmpty
  | fuel + 1, cs =>
    match cs.dropWhile (· == ' ') with
    | [] => true
    | cs =>
      match cs.dropWhile isTokenChar with
      | '=' :: rest => cs.head?.any isTokenChar && (afterValue rest).any (areParameters fuel)
      | _ => false

/-- The subtype without its suffix, and the suffix if it has one. -/
def splitSuffix (subtype : List Char) : List Char × Option (List Char) :=
  match subtype with
  | [] => ([], none)
  | first :: rest =>
    if rest.contains '+' then
      let suffix := (rest.reverse.takeWhile (· != '+')).reverse
      (first :: rest.take (rest.length - suffix.length - 1), some suffix)
    else (subtype, none)

/-- The text is a media type for JSON. -/
def isJson (value : String) : Bool :=
  let cs := value.toList
  let type := cs.takeWhile isTokenChar
  match cs.dropWhile isTokenChar with
  | '/' :: rest =>
    let subtype := rest.takeWhile isTokenChar
    let wellFormed := match rest.dropWhile isTokenChar with
      | [] => true
      | ';' :: parameters => !subtype.isEmpty && areParameters parameters.length parameters
      | _ => false
    let (main, suffix) := splitSuffix (subtype.map Char.toLower)
    wellFormed && type.map Char.toLower == "application".toList &&
      (main == "json".toList || suffix == some "json".toList)
  | _ => false

end Weblog.MediaType
