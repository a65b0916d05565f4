import Weblog.Logging
import Weblog.Settings

/-!
Options of the command line. Each option may be given once, and takes its value from the command
line, else from a variable of the environment, else from a default. The flag for more messages
may be repeated.
-/

namespace Weblog.CommandLine

open Weblog.Text

/-- An option with a value. -/
inductive Opt where
  | port
  | host
  | databasePath
  | origins
  | environment
  | tokenSecret
  | tokenHours
  | hashCost
  | logFormat
deriving Repr, DecidableEq

/-- Why the command line is not carried out. -/
inductive Halt where
  | help
  /-- The version is asked for, perhaps with that of the sources. -/
  | version (isLong : Bool)
  | unknownArgument
  | missingValue
  /-- The value is none of those that the option takes. -/
  | unlistedValue
  /-- The value cannot be read. -/
  | refusedValue
  | repeatedOption
  /-- A flag was given a value. -/
  | unexpectedValue
deriving Repr, DecidableEq

/-- To ask for help or the version is no failure. -/
def Halt.exitCode : Halt → Nat
  | .help => 0
  | .version _ => 0
  | _ => 2

/-- What has been chosen so far. -/
structure Choices where
  port : Option Nat
  host : Option String
  databasePath : Option String
  origins : Option String
  environment : Option String
  tokenSecret : Option String
  tokenHours : Option Nat
  hashCost : Option Nat
  verbosity : Option Nat
  logFormat : Option LogFormat
deriving Repr, DecidableEq

def Choices.none : Choices :=
  ⟨.none, .none, .none, .none, .none, .none, .none, .none, .none, .none⟩

/-- A number between two bounds, which may have a sign. -/
def readBounded (least greatest : Nat) (text : String) : Except Halt Nat :=
  match signed? 64 text with
  | some n =>
    if (least : Int) ≤ n ∧ n ≤ (greatest : Int) then .ok n.toNat else .error .refusedValue
  | none => .error .refusedValue

/-- A number of hours, at least one. -/
def readHours (text : String) : Except Halt Nat :=
  match unsigned? (Nat.pow 2 64) text with
  | some n => if 1 ≤ n then .ok n else .error .refusedValue
  | none => .error .refusedValue

/-- The form of a log, in small letters. -/
def readLogFormat (text : String) : Except Halt LogFormat :=
  if text = "pretty" then .ok .pretty
  else if text = "json" then .ok .json
  else .error .unlistedValue

/-- A verbosity, as a number or a name. -/
def readVerbosity (text : String) : Except Halt Nat :=
  match verbosity? text with
  | some n => .ok n
  | none => .error .refusedValue

namespace Choices

def has (c : Choices) : Opt → Bool
  | .port => c.port.isSome
  | .host => c.host.isSome
  | .databasePath => c.databasePath.isSome
  | .origins => c.origins.isSome
  | .environment => c.environment.isSome
  | .tokenSecret => c.tokenSecret.isSome
  | .tokenHours => c.tokenHours.isSome
  | .hashCost => c.hashCost.isSome
  | .logFormat => c.logFormat.isSome

/-- Chooses the value that the text writes. -/
def set (c : Choices) (o : Opt) (text : String) : Except Halt Choices := do
  match o with
  | .port => return { c with port := ← readBounded 0 65535 text }
  | .host => return { c with host := text }
  | .databasePath => return { c with databasePath := text }
  | .origins => return { c with origins := text }
  | .environment => return { c with environment := text }
  | .tokenSecret => return { c with tokenSecret := text }
  | .tokenHours => return { c with tokenHours := ← readHours text }
  | .hashCost =>
    return { c with
      hashCost := ← readBounded Settings.leastHashCost Settings.greatestHashCost text }
  | .logFormat => return { c with logFormat := ← readLogFormat text }

/-- Chooses a value on the command line, where an option stands once. -/
def setOnce (c : Choices) (o : Opt) (text : String) : Except Halt Choices :=
  if c.has o then .error .repeatedOption else c.set o text

def raise (c : Choices) : Except Halt Choices := do
  return { c with verbosity := ← readVerbosity (c.verbosity.getD 0 + 1).repr }

end Choices

/-- An option or a flag. -/
inductive Named where
  | option (o : Opt)
  | verbose
  | help
  | version
deriving Repr, DecidableEq

/-- The option or flag with the long name. -/
def Named.ofLong? (name : String) : Option Named :=
  [("port", Named.option .port), ("host", .option .host), ("db-path", .option .databasePath),
    ("cors-origins", .option .origins), ("env", .option .environment),
    ("jwt-secret", .option .tokenSecret), ("jwt-expiry-hours", .option .tokenHours),
    ("bcrypt-cost", .option .hashCost), ("log-format", .option .logFormat),
    ("verbose", .verbose), ("help", .help), ("version", .version)].lookup name

/-- The option or flag with the letter. -/
def Named.ofLetter? (letter : Char) : Option Named :=
  [('p', Named.option .port), ('d', .option .databasePath), ('v', .verbose), ('h', .help),
    ('V', .version)].lookup letter

/-- What has been read of a command line: an option may wait for its value, or hold a value that
has not been looked at. -/
structure Reader where
  choices : Choices
  waiting : Option (Opt × Option String)
deriving Repr, DecidableEq

namespace Reader

/-- Settles the option that waits. -/
def settle (r : Reader) : Except Halt Choices :=
  match r.waiting with
  | none => .ok r.choices
  | some (_, none) => .error .missingValue
  | some (o, some text) => r.choices.setOnce o text

/-- Takes a value that is written together with the option. -/
def attach (r : Reader) (o : Opt) (text : String) : Except Halt Reader := do
  let c ← r.settle
  return ⟨← c.setOnce o text, none⟩

/-- Waits for the value of the option. -/
def expect (r : Reader) (o : Opt) : Except Halt Reader := do
  return ⟨← r.settle, some (o, none)⟩

def flag (r : Reader) (isLong : Bool) : Named → Except Halt Reader
  | .verbose => do return ⟨← (← r.settle).raise, none⟩
  | .help => do
    let _ ← r.settle
    throw .help
  | .version => do
    let _ ← r.settle
    throw (.version isLong)
  | .option o => r.expect o

/-- Reads an argument after two hyphens. -/
def long (r : Reader) (cs : List Char) : Except Halt Reader :=
  let name := String.ofList (cs.takeWhile (· != '='))
  match Named.ofLong? name, cs.dropWhile (· != '=') with
  | none, _ => .error .unknownArgument
  | some (.option o), '=' :: value => r.attach o (String.ofList value)
  | some _, '=' :: _ => .error .unexpectedValue
  | some named, _ => r.flag true named

/-- Reads letters after one hyphen. What follows the letter of an option is its value. -/
def letters (r : Reader) : List Char → Except Halt Reader
  | [] => .ok r
  | letter :: rest =>
    match Named.ofLetter? letter, rest with
    | none, _ => .error .unknownArgument
    | some (.option o), [] => r.expect o
    | some (.option o), '=' :: value => r.attach o (String.ofList value)
    | some (.option o), value => r.attach o (String.ofList value)
    | some named, rest => do letters (← r.flag false named) rest

/-- Takes an argument without hyphens, which only an option that waits can use. -/
def value (r : Reader) (text : String) : Except Halt Reader :=
  match r.waiting with
  | some (o, none) => .ok { r with waiting := some (o, some text) }
  | _ => .error .unknownArgument

/-- Reads the arguments. After two hyphens alone, nothing may follow. -/
def all (r : Reader) : List String → Except Halt Choices
  | [] => r.settle
  | argument :: rest =>
    match argument.toList with
    | ['-', '-'] => if rest.isEmpty then r.settle else .error .unknownArgument
    | '-' :: '-' :: cs => do (← r.long cs).all rest
    | '-' :: c :: cs => do (← r.letters (c :: cs)).all rest
    | _ => do (← r.value argument).all rest

end Reader

/-- The variables of the options, in the order in which they are looked up. -/
def optionVariables : List (String × Opt) :=
  [("CONDUIT_PORT", .port), ("CONDUIT_HOST", .host), ("CONDUIT_DB_PATH", .databasePath),
    ("CONDUIT_CORS_ORIGINS", .origins), ("CONDUIT_ENV", .environment),
    ("CONDUIT_JWT_SECRET", .tokenSecret), ("CONDUIT_JWT_EXPIRY_HOURS", .tokenHours),
    ("CONDUIT_BCRYPT_COST", .hashCost)]

/-- Takes what has not been chosen from the environment. -/
def addVariable (lookup : String → Option String) (c : Choices) (source : String × Opt) :
    Except Halt Choices :=
  match c.has source.2, lookup source.1 with
  | false, some text => c.set source.2 text
  | _, _ => .ok c

/-- Takes the verbosity from the environment, if no flag gives it. -/
def addVerbosity (lookup : String → Option String) (c : Choices) : Except Halt Choices :=
  match c.verbosity, lookup "CONDUIT_LOG_LEVEL" with
  | none, some text => do return { c with verbosity := ← readVerbosity text }
  | _, _ => .ok c

/-- What a command line and the environment ask for. -/
structure Arguments where
  port : Nat
  host : String
  databasePath : String
  origins : String
  environment : String
  tokenSecret : Option String
  tokenHours : Nat
  hashCost : Nat
  verbosity : Nat
  logFormat : LogFormat
deriving Repr, DecidableEq

/-- The choices, with defaults for the rest. -/
def Choices.withDefaults (c : Choices) : Arguments where
  port := c.port.getD Settings.defaultPort
  host := c.host.getD Settings.defaultHost
  databasePath := c.databasePath.getD Settings.defaultDatabasePath
  origins := c.origins.getD Settings.defaultOrigins
  environment := c.environment.getD Settings.defaultEnvironment
  tokenSecret := c.tokenSecret
  tokenHours := c.tokenHours.getD Settings.defaultTokenHours
  hashCost := c.hashCost.getD Settings.defaultHashCost
  verbosity := c.verbosity.getD 0
  logFormat := c.logFormat.getD .pretty

/-- Reads a command line in an environment. -/
def read (lookup : String → Option String) (arguments : List String) : Except Halt Arguments := do
  let c ← Reader.all ⟨.none, none⟩ arguments
  let c ← optionVariables.foldlM (addVariable lookup) c
  let c ← addVerbosity lookup c
  let c ← addVariable lookup c ("CONDUIT_LOG_FORMAT", .logFormat)
  return c.withDefaults

/-- The settings that the arguments make. -/
def Arguments.settings (a : Arguments) : Settings :=
  Settings.default.chooseAll
    ([.host a.host, .port a.port, .databasePath a.databasePath, .tokenHours a.tokenHours,
        .hashCost a.hashCost, .origins a.origins, .environment a.environment] ++
      (a.tokenSecret.map Setting.tokenSecret).toList)

end Weblog.CommandLine
