import Weblog.Text.Percent
import Weblog.Text.Split

/-!
Fields of a query: names and values with equals signs between them and ampersands between the
fields. A plus sign stands for a blank. What is no text is mended with replacement characters.
-/

namespace Weblog.Form

open Weblog.Text
open Weblog.Json (byte)

/-- The text of a name or of a value. -/
def text (bytes : Bytes) : String :=
  Utf8.decodeLossy (Percent.decode (bytes.map fun b => if b = byte '+' then byte ' ' else b))

/-- A field; without an equals sign its value is empty. -/
def field (bytes : Bytes) : String × String :=
  match splitFirst? (byte '=') bytes with
  | some (name, value) => (text name, text value)
  | none => (text bytes, "")

/-- The fields of a query, in order. -/
def fields (query : String) : List (String × String) :=
  ((splitAt (byte '&') (Utf8.encode query)).filter (!·.isEmpty)).map field

/-- The value of a field that may be left out but not repeated. -/
def single? (fields : List (String × String)) (name : String) : Option (Option String) :=
  match fields.filter (·.1 == name) with
  | [] => some none
  | [(_, value)] => some (some value)
  | _ => none

end Weblog.Form
