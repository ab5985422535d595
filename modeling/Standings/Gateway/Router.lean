import Standings.Access.Token
import Standings.Gateway.Query
import Standings.Gateway.Refusal
import Standings.Gateway.Target

/-! # The gateway

The gateway answers requests on two paths: `/health` for anyone, and `/v1/ranking` for callers
whose token has the scope for it. A ranking request goes through the checks in a fixed order:
credentials, scope, query string, page arguments, source. Each check looks only at what it needs,
so a caller who is not let in learns nothing from the query string or the ledgers. -/

namespace Standings

namespace Gateway

/-- A request. -/
structure Request where
  /-- The method, such as `GET`. -/
  method : String
  /-- What the request is for. -/
  target : Target
  /-- The headers, in order; names are in lower case. -/
  headers : List (String × String)
  deriving DecidableEq, Repr

namespace Request

/-- Whether a text is a token of the protocol: a method or the name of a header. -/
def isToken (text : String) : Bool :=
  text ≠ "" && text.toList.all fun c => c.isAlphanum || "!#$%&'*+-.^_`|~".toList.contains c

/-- Whether a character may stand in the value of a header. -/
def isValueChar (c : Char) : Bool :=
  c = '\t' || (' ' ≤ c && c ≠ '\x7f')

/-- Puts a request together; `none` if a part cannot be in any request. -/
def of? (method uri : String) (headers : List (String × String)) : Option Request :=
  match Target.parse? uri with
  | none => none
  | some target =>
    if isToken method
        && headers.all fun (name, value) => isToken name && value.toList.all isValueChar then
      some { method, target, headers := headers.map fun (name, value) => (name.toLower, value) }
    else none

/-- The first value of a header. A value that is not all ASCII cannot be read and counts as
absent. -/
def header? (request : Request) (name : String) : Option String :=
  (request.headers.lookup name).filter fun value => value.toList.all (· < '\x7f')

end Request

/-- What an answer holds. -/
inductive Body where
  /-- Nothing. -/
  | empty
  /-- A text. -/
  | text (s : String)
  /-- A page of a board. -/
  | page (connection : Connection)
  /-- A refusal. -/
  | refusal (refusal : Refusal)
  deriving DecidableEq, Repr

namespace Body

/-- The type that an answer states for what it holds. -/
def contentType : Body → Option String
  | .empty => none
  | .text _ => some "text/plain; charset=utf-8"
  | .page _ => some "application/json"
  | .refusal _ => some "application/json"

/-- The text of an answer. -/
def write : Body → String
  | .empty => ""
  | .text s => s
  | .page connection => connection.toJson.write
  | .refusal r => r.toJson.write

end Body

/-- An answer. -/
structure Response where
  /-- The status. -/
  status : Nat
  /-- The headers. -/
  headers : List (String × String)
  /-- What it holds. -/
  body : Body
  deriving DecidableEq, Repr

namespace Response

/-- An answer that holds something. -/
def of (status : Nat) (body : Body) : Response :=
  { status, body, headers := body.contentType.toList.map fun type => ("content-type", type) }

/-- The answer that refuses a request. -/
def refuse (refusal : Refusal) : Response := of refusal.kind.status (.refusal refusal)

/-- The answer on a path that is none. -/
def notFound : Response := of 404 .empty

/-- The answer to a method that a path does not know. -/
def methodNotAllowed : Response := ⟨405, [("allow", "GET,HEAD")], .empty⟩

/-- The same answer with nothing in it. -/
def withoutBody (response : Response) : Response := { response with body := .empty }

end Response

end Gateway

/-- What answers requests: an engine, the key of the tokens it accepts, and the second at which
tokens are checked. -/
structure Gateway (σ : Type) where
  /-- What answers ranking queries. -/
  engine : Engine σ
  /-- The key under which tokens are signed. -/
  key : Access.Key
  /-- The current second. -/
  now : Int

namespace Gateway

/-- Lets a caller in: the credentials are good and have the scope for rankings. -/
def authorize (gateway : Gateway σ) (request : Request) : Except Refusal Access.Principal :=
  match (Access.bearerToken (request.header? "authorization")).bind
      (gateway.key.verify gateway.now) with
  | .error denial => .error (.ofDenial denial)
  | .ok principal =>
    if Access.allow Access.Scope.rankingRead principal.scopes then .ok principal
    else .error (.missingScope Access.Scope.rankingRead)

/-- Answers a ranking request. There is no answer if the window reaches beyond the calendar or the
source comes to its end. -/
def ranking (gateway : Gateway σ) (request : Request) (s : σ) : Option Response × σ :=
  -- Nothing of the query string is read before the caller is let in.
  match gateway.authorize request with
  | .error refusal => (some (.refuse refusal), s)
  | .ok _ =>
    match readQuery (request.target.query.getD []) with
    | .error e => (some (.refuse ⟨.badRequest, e.message⟩), s)
    | .ok (filter, args) =>
      match gateway.engine.ranking filter args s with
      | (.ok page, s) => (some (.of 200 (.page page)), s)
      | (.error (.arguments cause), s) => (some (.refuse (.ofArguments cause)), s)
      | (.error (.source fault), s) => (some (.refuse (.ofFault fault)), s)
      | (.error .outOfCalendar, s) => (none, s)
      | (.error .overflow, s) => (none, s)

/-- The path on which the service says that it is well. -/
def healthPath : List UInt8 := Utf8.encode "/health"

/-- The path of rankings. -/
def rankingPath : List UInt8 := Utf8.encode "/v1/ranking"

/-- Answers a request as if its method were `GET`, on a path that is there. -/
def get? (gateway : Gateway σ) (request : Request) : Option (σ → Option Response × σ) :=
  if request.target.path = healthPath then some fun s => (some (.of 200 (.text "OK")), s)
  else if request.target.path = rankingPath then some (gateway.ranking request)
  else none

/-- Answers a request. `HEAD` is answered like `GET`, with nothing in it. -/
def handle (gateway : Gateway σ) (request : Request) (s : σ) : Option Response × σ :=
  -- The path is looked at before the method.
  match gateway.get? request with
  | none => (some .notFound, s)
  | some answer =>
    if request.method = "GET" then answer s
    else if request.method = "HEAD" then
      let (response, s) := answer s
      (response.map Response.withoutBody, s)
    else (some .methodNotAllowed, s)

end Gateway

end Standings
