import Weblog.Text.Decimal
import Weblog.Text.Lowercase

namespace Weblog

open Weblog.Text

/-- The form of a log. -/
inductive LogFormat where
  | pretty
  | json
deriving Repr, DecidableEq

/-- The form with that name, in any case of its letters. -/
def LogFormat.ofName? (name : String) : Except String LogFormat :=
  let name := String.ofList (name.toList.map Char.toLower)
  if name = "pretty" then .ok .pretty
  else if name = "json" then .ok .json
  else .error s!"unknown log format '{name}'"

/-- How grave an event is. -/
inductive Level where
  | error
  | warn
  | info
  | debug
  | trace
deriving Repr, DecidableEq

namespace Level

/-- A graver level has a lower rank. -/
def rank : Level → Nat
  | error => 1
  | warn => 2
  | info => 3
  | debug => 4
  | trace => 5

def name : Level → String
  | error => "ERROR"
  | warn => "WARN"
  | info => "INFO"
  | debug => "DEBUG"
  | trace => "TRACE"

/-- The level up to which events are shown at a verbosity. -/
def ofVerbosity : Nat → Level
  | 0 => error
  | 1 => warn
  | 2 => info
  | 3 => debug
  | _ => trace

end Level

/-- An event of the log: `target` is the part of the program where it happens. -/
structure LogEvent where
  level : Level
  target : String
  message : String
deriving Repr, DecidableEq

/-- The verbosity that a number up to 5 or the name of a level gives. -/
def verbosity? (level : String) : Option Nat :=
  match unsigned? 256 level with
  | some n => if n ≤ 5 then some n else none
  | none =>
    let name := lowercase level
    if name = "error" then some 0
    else if name = "warn" then some 1
    else if name = "info" then some 2
    else if name = "debug" then some 3
    else if name = "trace" then some 4
    else none

end Weblog
