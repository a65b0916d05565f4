import Weblog.Logging
import Weblog.Text.Blank
import Weblog.Text.Split

/-!
Filters of a log. A filter is a list of directives, each of which names a level and perhaps a
part of the program; of those that concern an event the most specific one decides whether it is
shown.
-/

namespace Weblog

open Weblog.Text

/-- Why a directive is left out of a filter. -/
inductive DirectiveError where
  | malformed
  | unknownLevel
deriving Repr, DecidableEq

def DirectiveError.message : DirectiveError → String
  | .malformed => "invalid filter directive"
  | .unknownLevel => "error parsing level filter: expected one of \"off\", \"error\", \"warn\", " ++
      "\"info\", \"debug\", \"trace\", or a number 0-5"

/-- Events whose target starts with `target` are shown if they are as grave as `threshold`, and
none of them where there is no threshold. -/
structure Directive where
  target : String
  /-- The events have these fields. -/
  fields : List String
  /-- The events happen in a certain stretch of work. -/
  inSpan : Bool
  threshold : Option Level
deriving Repr, DecidableEq

/-- The names of thresholds, in the order of their numbers. -/
def thresholds : List (String × Option Level) :=
  [("off", none), ("error", some .error), ("warn", some .warn), ("info", some .info),
    ("debug", some .debug), ("trace", some .trace)]

/-- The threshold that a number up to 5 or a name writes, in any case of its letters. -/
def threshold? (text : String) : Option (Option Level) :=
  match unsigned? (Nat.pow 2 64) text with
  | some n => (thresholds[n]?).map (·.2)
  | none => thresholds.lookup (String.ofList (text.toList.map Char.toLower))

namespace Directive

/-- A directive starts with such a character, if not with a bracket. Letters beyond ASCII are
among them. -/
def isStart (c : Char) : Bool :=
  c.isAlphanum || c == '-' || c == ':' || c == '_' || 128 ≤ c.toNat

/-- The level after an equals sign; without one, everything is shown. -/
def readLevel (text : List Char) : Except DirectiveError (Option Level) :=
  if text.isEmpty then .ok (some .trace)
  else
    match threshold? (String.ofList text) with
    | some threshold => .ok threshold
    | none => .error .unknownLevel

/-- What stands between brackets: whether a stretch of work is named, or the value of a field, and
the fields. After it stands what is returned last. -/
def readSpan (cs : List Char) : Except DirectiveError (Bool × List String × List Char) :=
  let (name, rest) := cs.span fun c => c != ']' && c != '{'
  match rest with
  | ']' :: after => .ok (true, [], after)
  | _ :: rest =>
    let (field, rest) := rest.span (· != '}')
    match rest with
    | '}' :: ']' :: after =>
      if field.isEmpty then .error .malformed
      else
        let fieldName := String.ofList (field.takeWhile (· != '='))
        .ok (!name.isEmpty || field.contains '=', [fieldName], after)
    | _ => .error .malformed
  | [] => .error .malformed

/-- Reads a directive: a level, a target, or a target and a level with an equals sign between
them; brackets may follow the target. Its parts are found in the text without the blanks around
it, but cut from the whole text at the same places. -/
def read (text : String) : Except DirectiveError Directive :=
  let cs := trim text.toList
  let cut (after : List Char) := text.toList.drop (cs.length - after.length)
  let (name, rest) := cs.span fun c => c != '=' && c != '['
  let target := String.ofList (text.toList.take name.length)
  if !name.isEmpty && !(name.take 1).all isStart then .error .malformed
  else
    match rest with
    | [] =>
      if name.isEmpty then .error .malformed
      else
        match threshold? text with
        | some threshold => .ok ⟨"", [], false, threshold⟩
        | none => .ok ⟨text, [], false, some .trace⟩
    | '[' :: rest =>
      match readSpan rest with
      | .error e => .error e
      | .ok (inSpan, fields, []) => .ok ⟨target, fields, inSpan, some .trace⟩
      | .ok (inSpan, fields, '=' :: after) =>
        (readLevel (cut after)).map (⟨target, fields, inSpan, ·⟩)
      | .ok _ => .error .malformed
    | _ :: after =>
      if name.isEmpty then .error .malformed
      else (readLevel (cut after)).map (⟨target, [], false, ·⟩)

/-- The directive concerns the event, which has the one field of its message and happens outside
every named stretch of work. -/
def concerns (d : Directive) (e : LogEvent) : Bool :=
  !d.inSpan && d.fields.all (· == "message") && d.target.toList.isPrefixOf e.target.toList

/-- A longer target is more specific; of the same target, more fields are. -/
def moreSpecificThan (d other : Directive) : Bool :=
  other.target.utf8ByteSize < d.target.utf8ByteSize ||
    (other.target.utf8ByteSize == d.target.utf8ByteSize && other.fields.length < d.fields.length)

/-- The directive lets events of the level be shown. -/
def lets (d : Directive) (level : Level) : Bool :=
  match d.threshold with
  | some threshold => level.rank ≤ threshold.rank
  | none => false

end Directive

/-- The directives in the order in which they are given. -/
structure LogFilter where
  directives : List Directive
deriving Repr, DecidableEq

namespace LogFilter

/-- The parts of a list with commas that are not empty. -/
def parts (list : String) : List String :=
  ((splitAt ',' list.toList).filter fun part => !part.isEmpty).map String.ofList

/-- The filter that the list writes, without the directives that cannot be read. If none is left,
events up to the level are shown. -/
def ofList (list : String) (level : Level) : LogFilter :=
  match (parts list).filterMap fun part => (Directive.read part).toOption with
  | [] => ⟨[⟨"", [], false, some level⟩]⟩
  | directives => ⟨directives⟩

/-- What is said about the directives that are left out. -/
def notices (list : String) : List String :=
  (parts list).filterMap fun part =>
    match Directive.read part with
    | .ok _ => none
    | .error e => some ("ignoring \x60" ++ part ++ "\x60: " ++ e.message)

/-- The most specific directive that concerns the event; of equally specific ones the last. -/
def directive? (f : LogFilter) (e : LogEvent) : Option Directive :=
  (f.directives.filter (·.concerns e)).foldl
    (fun best d =>
      match best with
      | some b => if b.moreSpecificThan d then some b else some d
      | none => some d) none

def shows (f : LogFilter) (e : LogEvent) : Bool :=
  match f.directive? e with
  | some d => d.lets e.level
  | none => false

end LogFilter

end Weblog
