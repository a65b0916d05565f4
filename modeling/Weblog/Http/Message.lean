import Weblog.Json.Value
import Weblog.Text.Split

namespace Weblog

open Weblog.Text

inductive Method where
  | get
  | head
  | post
  | put
  | delete
  | options
  | other (name : String)
deriving Repr, DecidableEq

def Method.ofName (name : String) : Method :=
  if name = "GET" then .get
  else if name = "HEAD" then .head
  else if name = "POST" then .post
  else if name = "PUT" then .put
  else if name = "DELETE" then .delete
  else if name = "OPTIONS" then .options
  else .other name

def Method.name : Method → String
  | .get => "GET"
  | .head => "HEAD"
  | .post => "POST"
  | .put => "PUT"
  | .delete => "DELETE"
  | .options => "OPTIONS"
  | .other name => name

structure Request where
  method : Method
  /-- The path as it was sent. -/
  path : String
  /-- The query as it was sent, empty where there is none. -/
  query : String
  headers : List (String × String)
  body : Bytes
deriving Repr, DecidableEq

/-- The values of the headers with the name, in order. -/
def Request.values (r : Request) (name : String) : List String :=
  (r.headers.filter fun h => h.1.toList.map Char.toLower == name.toList).map (·.2)

inductive Body where
  | empty
  | text (s : String)
  | json (v : Json.Value)

structure Response where
  status : Nat
  headers : List (String × String)
  body : Body

namespace Body

/-- The type of a body, for the header that tells it. -/
def contentType? : Body → Option String
  | .empty => none
  | .text _ => some "text/plain; charset=utf-8"
  | .json _ => some "application/json"

def render : Body → String
  | .empty => ""
  | .text s => s
  | .json v => v.render

end Body

namespace Response

/-- A response without a body. -/
def bare (status : Nat) : Response := ⟨status, [], .empty⟩

def json (status : Nat) (value : Json.Value) : Response := ⟨status, [], .json value⟩

end Response

/-- A target without the scheme and the authority that it may start with. -/
def localTarget (cs : List Char) : List Char :=
  if cs.head? = some '/' then cs
  else
    match splitFirst? ':' cs with
    | some (_, '/' :: '/' :: rest) =>
      let rest := rest.dropWhile fun c => c != '/' && c != '?' && c != '#'
      if rest.head? = some '/' then rest else '/' :: rest
    | _ => cs

/-- The path of a target, and what follows its question mark; what follows a hash sign is left
out. -/
def splitTarget (target : String) : String × String :=
  let cs := (localTarget target.toList).takeWhile (· != '#')
  (String.ofList (cs.takeWhile (· != '?')), String.ofList ((cs.dropWhile (· != '?')).drop 1))

end Weblog
