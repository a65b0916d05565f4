import Weblog.CommandLine.Banner
import Weblog.Logging.Filter
import Weblog.Service.Startup

namespace Weblog.CommandLine

/-- How a run ends: the command line stops it, the start fails, or the service listens. -/
inductive Ending where
  | halted (halt : Halt)
  | failed (error : StartError)
  | started (app : Application)

structure Run where
  ending : Ending
  /-- What is said about a filter that cannot be read. -/
  notices : List String
  format : LogFormat
  /-- The events that the filter shows. -/
  events : List LogEvent

namespace Run

/-- The start that the arguments ask for, with the events before it and, where a failing service
has spans to send, after it. -/
def start (site : Site) (passwords : PasswordScheme) (commit : String) (sendsSpans : Bool)
    (a : Arguments) : Except StartError Application × List LogEvent :=
  let (result, events) := (Start.service site passwords commit a.settings).run
    [⟨.info, Subsystem.commandLine.target, a.summary commit⟩]
  match result with
  | .ok app => (.ok app, events)
  | .error e =>
    (.error e, events ++
      if sendsSpans then
        [⟨.debug, Subsystem.telemetry.target, "shutting down tracer provider"⟩,
          ⟨.debug, Subsystem.telemetry.target, "tracer provider shutdown complete"⟩]
      else [])

/-- Runs the program. -/
def ofArguments (site : Site) (passwords : PasswordScheme) (commit : String)
    (lookup : String → Option String) (arguments : List String) : Run :=
  match read lookup arguments with
  | .error halt => ⟨.halted halt, [], .pretty, []⟩
  | .ok a =>
    let directives := (lookup "RUST_LOG").getD ""
    let filter := LogFilter.ofList directives (Level.ofVerbosity a.verbosity)
    let (result, events) :=
      start site passwords commit (lookup "OTEL_EXPORTER_OTLP_ENDPOINT").isSome a
    let ending := match result with
      | .ok app => Ending.started app
      | .error e => .failed e
    ⟨ending, LogFilter.notices directives, a.logFormat, events.filter filter.shows⟩

def exitCode (r : Run) : Nat :=
  match r.ending with
  | .halted halt => halt.exitCode
  | .failed _ => 1
  | .started _ => 0

/-- The causes of an error, with numbers if there are several. -/
def causes : List String → String
  | [] => ""
  | [cause] => s!"\n\nCaused by:\n    {cause}"
  | several =>
    "\n\nCaused by:" ++ String.join (several.zipIdx.map fun (cause, i) => s!"\n    {i}: {cause}")

/-- The error in words, with its causes. -/
def errorText (messages : List String) : String :=
  "Error: " ++ messages.headD "" ++ causes messages.tail

/-- What a run that fails to start says, line after line. -/
def errorLines (r : Run) : List String :=
  match r.ending with
  | .failed e => r.notices ++ [errorText e.messages]
  | _ => r.notices

end Run

end Weblog.CommandLine
