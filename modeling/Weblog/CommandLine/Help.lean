import Weblog.CommandLine.Banner
import Weblog.Service.Description

namespace Weblog.CommandLine

/-- The options and flags: how each is written, and what it is for. -/
def optionTexts : List (String × String) :=
  [("-p, --port <port>", "Port to listen on"),
    ("    --host <host>", "Address to bind"),
    ("-d, --db-path <db-path>", "SQLite database file, created if missing"),
    ("    --cors-origins <cors-origins>", "Comma separated list of allowed origins, or *"),
    ("    --env <env>", "Deployment environment; production refuses the placeholder JWT secret"),
    ("    --jwt-secret <jwt-secret>", "HMAC secret used to sign tokens"),
    ("    --jwt-expiry-hours <jwt-expiry-hours>", "Token lifetime in hours"),
    ("    --bcrypt-cost <bcrypt-cost>", "bcrypt work factor for password hashes"),
    ("-v, --verbose...", "Verbosity level: ERROR, WARN, INFO, DEBUG, TRACE (default: ERROR)"),
    ("    --log-format <log-format>", "Log output: pretty for terminals, json for log shippers"),
    ("-h, --help", "Print help"),
    ("-V, --version", "Print version")]

/-- How the program is used. -/
def helpText : String :=
  Description.purpose ++ "\n\nUsage: " ++ programName ++ " [OPTIONS]\n\nOptions:" ++
    String.join (optionTexts.map fun (form, purpose) => "\n  " ++ form ++ "\n          " ++ purpose)

/-- What is printed where the command line stops the program. -/
def Halt.text (commit : String) : Halt → String
  | .help => helpText
  | .version isLong => versionText commit isLong
  | .unknownArgument => "error: unexpected argument"
  | .missingValue => "error: a value is required"
  | .unlistedValue => "error: invalid value [possible values: pretty, json]"
  | .refusedValue => "error: invalid value"
  | .repeatedOption => "error: an option cannot be used multiple times"
  | .unexpectedValue => "error: unexpected value for a flag"

end Weblog.CommandLine
