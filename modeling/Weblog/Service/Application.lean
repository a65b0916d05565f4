import Weblog.Http.Origin
import Weblog.Service.Accounts
import Weblog.Service.Articles

/-!
The application: it finds the handler of a request, and tells every client which origins may
see the answer.

Two layers of the server around it are left out: one that gives a request up after 15 seconds and
answers 408, and one that answers 500 where a handler panics. A request that is given up stops
between two of its statements, as one does that is left in `Traffic.Step.leave`; what it is answered
is not told here.
-/

namespace Weblog

open Weblog.Json

/-- Whose pages may see the answers. -/
inductive Audience where
  | everybody
  | origins (list : List String)
deriving Repr, DecidableEq

/-- The audience that the settings name. An asterisk among them names everybody. -/
def Audience.ofNames (names : List String) : Except OriginError Audience :=
  if names.contains "*" then .ok .everybody
  else (names.mapM Origin.normalize).map .origins

structure Application where
  shared : Shared
  audience : Audience

namespace Application

def ofSettings (settings : Settings) (passwords : PasswordScheme) (commit : String) :
    Except OriginError Application := do
  let audience ← Audience.ofNames settings.origins
  return ⟨⟨TokenService.ofSettings settings, passwords, settings.hashCost, commit⟩, audience⟩

def serviceName : String := "conduit-api"
def version : String := "0.1.0"

/-- The health of the service: whether its store answers. -/
def health (shared : Shared) (m : Moment) (isOk : Bool) : Value :=
  let word := if isOk then "ok" else "error"
  .object [("status", .string word), ("timestamp", .string (Instant.text ⟨m.now.seconds, 0⟩)),
    ("version", .string version), ("service", .string serviceName),
    ("commit", .string shared.commit), ("database", .string word)]

/-- Shows the health of the service, in a header also. -/
def checkHealth (shared : Shared) (m : Moment) (method : Method) : Session Response := do
  let isOk := (← Work.ping.run).isOk
  let headers :=
    [("x-app", s!"{serviceName}:{version}:{String.ofList (shared.commit.toList.take 7)}")]
  let body := if method = .get then Body.json (health shared m isOk) else .empty
  return ⟨if isOk then 200 else 503, headers, body⟩

/-- The handler of a method on a route. A request for the head of an answer is handled as one
for the answer. -/
def handler? (shared : Shared) (m : Moment) (r : Request) (route : Route) : Option Handler :=
  let method := if r.method = .head then .get else r.method
  match route, method with
  | .health, .get => some (ExceptT.lift (checkHealth shared m r.method))
  | .users, .post => some (Accounts.register shared m r)
  | .login, .post => some (Accounts.login shared m r)
  | .user, .get => some (Accounts.current shared m r)
  | .user, .put => some (Accounts.update shared m r)
  | .profile username, .get => some (Accounts.profile username)
  | .articles, .get => some (Articles.list r)
  | .articles, .post => some (Articles.create shared m r)
  | .article slug, .get => some (Articles.get slug)
  | .article slug, .put => some (Articles.update shared m r slug)
  | .article slug, .delete => some (Articles.delete shared m r slug)
  | .comments slug, .get => some (Articles.comments slug)
  | .comments slug, .post => some (Articles.comment shared m r slug)
  | .comment slug id, .delete => some (Articles.deleteComment shared m r slug id)
  | _, _ => none

/-- The answer of a handler, or the one that tells why it fails. -/
def finish (handler : Handler) : Session Response := do
  match ← handler.run with
  | .ok response => return response
  | .error e => return e.response

/-- A response for a route that has no handler for the method. -/
def notAllowed (route : Route) (status : Nat) : Response :=
  ⟨status, [("allow", route.allow)], .empty⟩

/-- The answer to a request, before the headers that all answers have. A request for options is
never handled. -/
def handle (shared : Shared) (m : Moment) (r : Request) : Session Response :=
  match Route.ofPath? r.path with
  | none => return .bare (if r.method = .options then 200 else 404)
  | some route =>
    if r.method = .options then return notAllowed route 200
    else
      match handler? shared m r route with
      | some handler => finish handler
      | none => return notAllowed route 405

/-- The origin that may see the answer, if the request comes from one that may. -/
def visibleTo (audience : Audience) (r : Request) : Option String :=
  match audience with
  | .everybody => some "*"
  | .origins list => ((r.values "origin").head?).filter list.contains

/-- The headers by which a browser knows whether a page may see the answer. -/
def sharingHeaders (audience : Audience) (r : Request) : List (String × String) :=
  ("vary", "origin, access-control-request-method, access-control-request-headers") ::
    (match visibleTo audience r with
      | some origin => [("access-control-allow-origin", origin)]
      | none => []) ++
    if r.method = .options then
      [("access-control-allow-methods", "GET,POST,PUT,DELETE,OPTIONS"),
        ("access-control-allow-headers", "content-type,authorization")]
    else []

/-- The headers that every answer has. -/
def commonHeaders (audience : Audience) (m : Moment) (r : Request) (body : Body) :
    List (String × String) :=
  let typeHeader := match body.contentType? with
    | some name => [("content-type", name)]
    | none => []
  typeHeader ++ [("content-length", toString body.render.utf8ByteSize)] ++
    sharingHeaders audience r ++
    [("x-request-id", (r.values "x-request-id").head?.getD m.requestId)]

/-- The whole answer; only its head is sent where no more is asked for. -/
def complete (audience : Audience) (m : Moment) (r : Request) (response : Response) : Response :=
  { response with
    headers := response.headers ++ commonHeaders audience m r response.body
    body := if r.method = .head then .empty else response.body }

def respond (app : Application) (m : Moment) (r : Request) : Session Response := do
  return complete app.audience m r (← handle app.shared m r)

end Application

end Weblog
