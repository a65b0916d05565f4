import Weblog.Json.Value
import Weblog.Logging
import Weblog.Time.Instant

namespace Weblog

open Weblog.Json

namespace LogEvent

def toJson (e : LogEvent) (now : Instant) : Value :=
  .object [("timestamp", .string now.text), ("level", .string e.level.name),
    ("message", .string e.message), ("target", .string e.target)]

/-- The event in a form of the log. -/
def line (e : LogEvent) (now : Instant) : LogFormat → String
  | .json => (e.toJson now).render
  | .pretty => "  " ++ now.text ++ "  " ++ e.level.name ++ " " ++ e.message ++ "\n"

end LogEvent

end Weblog
