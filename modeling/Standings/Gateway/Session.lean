import Standings.Gateway.Router
import Standings.Ranking.Session

/-! # Sessions at the gateway

A session is a sequence of requests to one gateway, with new grants between them. A request may
add cursors from the pages that earlier requests have been answered with to its query string. -/

namespace Standings

namespace Gateway

namespace Session

open Standings.Session (CursorRef)

/-- A step of a session. -/
inductive Step where
  /-- Sends a request. -/
  | request (method uri : String) (headers : List (String × String))
      (after before : Option CursorRef)
  /-- Records a grant. -/
  | append (grant : Grant)
  deriving DecidableEq, Repr

/-- What a step answers. -/
inductive Answer where
  /-- An answer of the gateway. -/
  | response (response : Response)
  /-- The request cannot be put together. -/
  | noRequest
  /-- The gateway gives no answer. -/
  | silence
  /-- The grant is recorded. -/
  | appended
  deriving DecidableEq, Repr

/-- The page that an answer holds. -/
def Answer.page? : Answer → Option Connection
  | .response ⟨_, _, .page connection⟩ => some connection
  | _ => none

/-- The page that an earlier step has been answered with. -/
def pageAt (answers : List Answer) (step : Nat) : Option Connection :=
  answers[step]?.bind Answer.page?

/-- A URI with one more pair in its query string, if there is a value for it. -/
def withPair (uri name : String) : Option String → String
  | none => uri
  | some value => uri ++ "&" ++ name ++ "=" ++ value

/-- Takes one step. -/
def step (gateway : Gateway σ) (record : Grant → σ → σ) (answers : List Answer) (s : σ) :
    Step → Answer × σ
  | .append grant => (.appended, record grant s)
  | .request method uri headers after before =>
    let uri := withPair uri "after" (after.bind (·.resolve (pageAt answers)))
    let uri := withPair uri "before" (before.bind (·.resolve (pageAt answers)))
    match Request.of? method uri headers with
    | none => (.noRequest, s)
    | some request =>
      match gateway.handle request s with
      | (some answer, s) => (.response answer, s)
      | (none, s) => (.silence, s)

/-- Takes steps one after the other, behind the answers so far. -/
def run (gateway : Gateway σ) (record : Grant → σ → σ) :
    List Step → List Answer → σ → List Answer × σ
  | [], answers, s => (answers, s)
  | next :: rest, answers, s =>
    let (answer, s) := step gateway record answers s next
    run gateway record rest (answers ++ [answer]) s

end Session

end Gateway

end Standings
