import Standings.Ranking

/-! # Walks

A walk turns the pages of a board one after the other. Forward it asks for the first entries, then
for those after the last cursor of each page, as long as the page says that more follow; backward
it asks for the last entries, then for those before the first cursor of each page. -/

namespace Standings

namespace Connection

/-- The cursor at one end of a page. -/
def cursorAt (page : Connection) : Page.Side → Option String
  | .first => page.pageInfo.startCursor
  | .last => page.pageInfo.endCursor

end Connection

/-- How a board is walked. -/
structure Walk where
  /-- The side from which the walk starts: first goes forward, last goes backward. -/
  side : Page.Side
  /-- The size asked for with every page; `none` leaves it to the service. -/
  size : Option Int64
  deriving DecidableEq, Repr

namespace Walk

/-- The arguments for the page behind a cursor, in the direction of the walk. -/
def arguments (walk : Walk) (cursor : Option String) : Page.Arguments :=
  match walk.side with
  | .first => { first := walk.size, after := cursor }
  | .last => { last := walk.size, before := cursor }

/-- The cursor behind which the walk goes on; `none` where it ends. -/
def next? (walk : Walk) (page : Connection) : Option String :=
  match walk.side with
  | .first => if page.pageInfo.hasNextPage then page.pageInfo.endCursor else none
  | .last => if page.pageInfo.hasPreviousPage then page.pageInfo.startCursor else none

/-- Turns at most `pages` pages from a cursor on. A page that cannot be had ends the walk without
any. -/
def run (walk : Walk) (fetch : Page.Arguments → σ → Except ε Connection × σ) :
    Nat → Option String → σ → Except ε (List Connection) × σ
  | 0, _, s => (.ok [], s)
  | pages + 1, cursor, s =>
    match fetch (walk.arguments cursor) s with
    | (.error e, s) => (.error e, s)
    | (.ok page, s) =>
      match walk.next? page with
      -- The board ends with this page, or the page has no entry to go on from.
      | none => (.ok [page], s)
      | some cursor =>
        match run walk fetch pages (some cursor) s with
        | (.error e, s) => (.error e, s)
        | (.ok later, s) => (.ok (page :: later), s)

end Walk

end Standings
