import Weblog.Logging
import Weblog.Schema.Migration
import Weblog.Service.Application

namespace Weblog

/-- What the service finds where it starts. -/
structure Site where
  /-- The tables of the database at a path, if it can be opened or made. -/
  catalog? : String → Option Schema.Catalog
  /-- The service can listen at an address. -/
  isFree : String → Bool

/-- Why the service does not start. -/
inductive StartError where
  | settings (refusal : Settings.Refusal)
  | database (path : String)
  | origin (error : OriginError)
  | address (name : String)
deriving Repr, DecidableEq

/-- The error in words, and its causes. -/
def StartError.messages : StartError → List String
  | .settings refusal => [refusal.message]
  | .database path => [s!"Failed to open database at {path}"]
  | .origin error => error.messages
  | .address name => [s!"Failed to bind {name}"]

/-- The parts of the program that log. -/
inductive Subsystem where
  | commandLine
  | service
  | schema
  | telemetry
deriving Repr, DecidableEq

def Subsystem.target : Subsystem → String
  | .commandLine => "conduit::cli::actions::server"
  | .service => "conduit::api"
  | .schema => "conduit::storage::migrations"
  | .telemetry => "conduit::cli::telemetry"

/-- Work that logs events and may fail. -/
abbrev Start := ExceptT StartError (StateM (List LogEvent))

namespace Start

def log (level : Level) (subsystem : Subsystem) (message : String) : Start Unit :=
  modify (· ++ [⟨level, subsystem.target, message⟩])

/-- Refuses settings that would leave the service insecure or useless, and warns of a secret that
everybody knows. -/
def checkSettings (settings : Settings) : Start Unit := do
  if let some refusal := settings.refusal? then throw (.settings refusal)
  if !settings.isProduction && settings.hasPlaceholderSecret then
    log .warn .service
      "Using the development JWT secret; set CONDUIT_JWT_SECRET before deploying"

/-- Opens the database and applies the scripts that it lacks. -/
def openDatabase (site : Site) (path : String) : Start Unit :=
  match site.catalog? path with
  | none => throw (.database path)
  | some c =>
    match (c.migrate Schema.migrations).1 with
    | .error _ => throw (.database path)
    | .ok names => names.forM fun name => log .info .schema s!"Applied migration: {name}"

def service (site : Site) (passwords : PasswordScheme) (commit : String) (settings : Settings) :
    Start Application := do
  checkSettings settings
  openDatabase site settings.databasePath
  match Application.ofSettings settings passwords commit with
  | .error e => throw (.origin e)
  | .ok app =>
    if !site.isFree settings.address then throw (.address settings.address)
    log .info .service s!"Listening on {settings.address}"
    return app

end Start

end Weblog
