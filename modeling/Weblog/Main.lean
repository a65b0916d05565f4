import Std.Time
import Weblog.CommandLine.Help
import Weblog.CommandLine.Run
import Weblog.Logging.Line

/-!
The program on the command line. It checks that the service can start, and prints what the start
logs; connections are taken by a server that asks `Application.respond`.
-/

open Weblog

namespace Weblog.CommandLine

/-- The version of the sources is not known here. -/
def unknownCommit : String := "unknown"

/-- The variables that a run looks up. -/
def variableNames : List String :=
  CommandLine.optionVariables.map (·.1) ++
    ["CONDUIT_LOG_LEVEL", "CONDUIT_LOG_FORMAT", "RUST_LOG", "OTEL_EXPORTER_OTLP_ENDPOINT"]

def environment : IO (List (String × String)) :=
  variableNames.filterMapM fun name => do return (← IO.getEnv name).map (name, ·)

/-- A database can be kept at the path. -/
def canOpen (path : String) : IO Bool := do
  if path == ":memory:" then return true
  try
    let parts := path.splitOn "/"
    if parts.length > 1 then IO.FS.createDirAll ("/".intercalate parts.dropLast ++ "/")
    let _ ← IO.FS.Handle.mk path .append
    return true
  catch _ => return false

def now : IO Instant := do
  let total := (← Std.Time.Timestamp.now).toNanosecondsSinceUnixEpoch.val
  return ⟨total / 1000000000, (total % 1000000000).toNat⟩

def print (r : Run) : IO Unit := do
  for e in r.events do IO.println (e.line (← now) r.format)
  for text in r.errorLines do IO.eprintln text
  match r.ending with
  | .halted halt =>
    if halt.exitCode = 0 then IO.println (halt.text unknownCommit)
    else IO.eprintln (halt.text unknownCommit)
  | _ => pure ()

end Weblog.CommandLine

def main (arguments : List String) : IO UInt32 := do
  let values ← CommandLine.environment
  let lookup (name : String) := values.lookup name
  let canOpen ← match CommandLine.read lookup arguments with
    | .ok a => if a.settings.refusal?.isNone then CommandLine.canOpen a.databasePath else pure false
    | .error _ => pure false
  let site : Site := ⟨fun _ => if canOpen then some Schema.Catalog.blank else none, fun _ => true⟩
  let run :=
    CommandLine.Run.ofArguments site Bcrypt.scheme CommandLine.unknownCommit lookup arguments
  CommandLine.print run
  return UInt32.ofNat run.exitCode
