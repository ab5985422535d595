import Standings.Ranking.Walk

/-! # Sessions

A session is a sequence of steps against one ledger: queries, walks and new grants. A query may
take its cursors from the pages that earlier steps have answered. -/

namespace Standings

namespace Session

/-- Where a step takes a cursor from. -/
inductive CursorRef where
  /-- A text the caller has. -/
  | text (cursor : String)
  /-- The cursor at one end of the page that an earlier step has answered, if it has. -/
  | pageEnd (step : Nat) (side : Page.Side)
  deriving DecidableEq, Repr

/-- A step of a session. -/
inductive Step where
  /-- Asks for a page. -/
  | query (filter : Filter) (first last : Option Int64) (after before : Option CursorRef)
  /-- Records a grant. -/
  | append (grant : Grant)
  /-- Walks the whole board. -/
  | walk (filter : Filter) (walk : Walk)
  deriving DecidableEq, Repr

/-- What a step answers. -/
inductive Answer where
  /-- A page. -/
  | page (connection : Connection)
  /-- The grant is recorded. -/
  | appended
  /-- The pages of a walk. -/
  | pages (connections : List Connection)
  /-- There is no page. -/
  | failed (error : RankingError)
  deriving DecidableEq, Repr

/-- The most pages that a walk turns. -/
def walkLimit : Nat := 100

/-- The page that an answer holds. -/
def Answer.page? : Answer → Option Connection
  | .page connection => some connection
  | _ => none

/-- The cursor a reference stands for, given the pages that earlier steps have answered. -/
def CursorRef.resolve (pageAt : Nat → Option Connection) : CursorRef → Option String
  | .text cursor => some cursor
  | .pageEnd step side => (pageAt step).bind (·.cursorAt side)

/-- The page that an earlier step has answered. -/
def pageAt (answers : List Answer) (step : Nat) : Option Connection :=
  answers[step]?.bind Answer.page?

/-- Takes one step. -/
def step (engine : Engine LedgerService) (answers : List Answer) (service : LedgerService) :
    Step → Answer × LedgerService
  | .query filter first last after before =>
    -- A reference to a page that is not there asks for nothing.
    let args : Page.Arguments :=
      { first, last
        after := after.bind (·.resolve (pageAt answers))
        before := before.bind (·.resolve (pageAt answers)) }
    match engine.ranking filter args service with
    | (.ok page, service) => (.page page, service)
    | (.error e, service) => (.failed e, service)
  | .append grant => (.appended, service.append grant)
  | .walk filter walk =>
    match walk.run (engine.ranking filter) walkLimit none service with
    | (.ok pages, service) => (.pages pages, service)
    | (.error e, service) => (.failed e, service)

/-- Takes steps one after the other, behind the answers so far. -/
def run (engine : Engine LedgerService) :
    List Step → List Answer → LedgerService → List Answer × LedgerService
  | [], answers, service => (answers, service)
  | next :: rest, answers, service =>
    let (answer, service) := step engine answers service next
    run engine rest (answers ++ [answer]) service

end Session

end Standings
