import Weblog.CommandLine.Argument
import Weblog.Service.Application

namespace Weblog.CommandLine

def programName : String := "conduit"

/-- The first characters of the version of the sources, by which it is known. -/
def shortCommit (commit : String) : String :=
  String.ofList (commit.toList.take 7)

/-- The version, and that of the sources where more is asked for. -/
def versionText (commit : String) (isLong : Bool) : String :=
  programName ++ " " ++ Application.version ++ if isLong then " - " ++ commit else ""

/-- The name of the program in large letters, and its version. -/
def banner (commit : String) : String :=
  "\n".intercalate [
    "",
    "  ___  ___  _ __   __| |_   _(_) |_",
    " / __|/ _ \\| '_ \\ / _\x60 | | | | | __|",
    "| (__| (_) | | | | (_| | |_| | | |_",
    " \\___|\\___/|_| |_|\\__,_|\\__,_|_|\\__|  - "] ++
    s!"{Application.version} - {shortCommit commit}"

namespace Arguments

/-- What the arguments choose, without the secret. -/
def entries (a : Arguments) : List (String × String) :=
  [("listen", s!"{a.host}:{a.port}"), ("db_path", a.databasePath),
    ("environment", a.environment), ("jwt_secret_set", toString a.tokenSecret.isSome),
    ("jwt_expiry_hours", toString a.tokenHours), ("bcrypt_cost", toString a.hashCost),
    ("cors_origins", a.origins)]

/-- The banner, and below it the entries with their values in one column. -/
def summary (a : Arguments) (commit : String) : String :=
  let width := (a.entries.map (·.1.length)).foldl max 0
  let lines := a.entries.map fun (key, value) =>
    "\n  " ++ String.ofList ((key ++ ":").toList.rightpad (width + 1) ' ') ++ " " ++ value
  banner commit ++ "\n\nStartup configuration:" ++ String.join lines

end Arguments

end Weblog.CommandLine
