import Weblog.Http.Message
import Weblog.Text.Percent
import Weblog.Text.Split

namespace Weblog

open Weblog.Text

/-- What a path names, with its parameters as they were sent. -/
inductive Route where
  | health
  | users
  | login
  | user
  | profile (username : String)
  | articles
  | article (slug : String)
  | comments (slug : String)
  | comment (slug id : String)
deriving Repr, DecidableEq

namespace Route

/-- What a path with these parts names. -/
def ofParts? : List String → Option Route
  | ["health"] => some .health
  | ["api", "users"] => some .users
  | ["api", "users", "login"] => some .login
  | ["api", "user"] => some .user
  | ["api", "profiles", username] => if username.isEmpty then none else some (.profile username)
  | ["api", "articles"] => some .articles
  | ["api", "articles", slug] => if slug.isEmpty then none else some (.article slug)
  | ["api", "articles", slug, "comments"] => if slug.isEmpty then none else some (.comments slug)
  | ["api", "articles", slug, "comments", id] =>
    if slug.isEmpty || id.isEmpty then none else some (.comment slug id)
  | _ => none

/-- What a path names. -/
def ofPath? (path : String) : Option Route :=
  match (splitAt '/' path.toList).map String.ofList with
  | "" :: parts => ofParts? parts
  | _ => none

def parts : Route → List String
  | .health => ["health"]
  | .users => ["api", "users"]
  | .login => ["api", "users", "login"]
  | .user => ["api", "user"]
  | .profile username => ["api", "profiles", username]
  | .articles => ["api", "articles"]
  | .article slug => ["api", "articles", slug]
  | .comments slug => ["api", "articles", slug, "comments"]
  | .comment slug id => ["api", "articles", slug, "comments", id]

def path (route : Route) : String :=
  String.join (route.parts.map ("/" ++ ·))

/-- The methods that serve a route, in the order in which they are told. -/
def methods : Route → List Method
  | .health => [.get, .head]
  | .users => [.post]
  | .login => [.post]
  | .user => [.get, .head, .put]
  | .profile _ => [.get, .head]
  | .articles => [.get, .head, .post]
  | .article _ => [.get, .head, .put, .delete]
  | .comments _ => [.get, .head, .post]
  | .comment _ _ => [.delete]

/-- The methods of a route in one line. -/
def allow (route : Route) : String :=
  ",".intercalate (route.methods.map Method.name)

end Route

def parameter? (raw : String) : Option String :=
  Percent.decodeText? (Utf8.encode raw)

end Weblog
