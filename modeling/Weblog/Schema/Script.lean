import Weblog.Text.Blank
import Weblog.Text.Lines

namespace Weblog.Schema

open Weblog.Text

/-- The line that opens the section to run. -/
def upMarker : List Char := "-- +migrate Up".toList

/-- The line that opens the section to leave out. -/
def downMarker : List Char := "-- +migrate Down".toList

/-- The line has nothing but a comment. -/
def isComment (line : List Char) : Bool :=
  (trim line).take 2 == ['-', '-']

/-- Lines to run, up to the section to leave out; `opened` says that the section to run has been
opened. -/
def upLines (opened : Bool) : List (List Char) → List (List Char)
  | [] => []
  | line :: rest =>
    if trim line = upMarker then upLines true rest
    else if trim line = downMarker then []
    else if opened && !isComment line then line :: upLines opened rest
    else upLines opened rest

/-- What a script runs: the lines of its first section without comments. -/
def upSection (script : String) : String :=
  String.ofList (trim (joinLines (upLines false (lines script.toList))))

end Weblog.Schema
