import Standings.Board
import Standings.Page.Arguments

/-! # Connections

A connection is one page of a board with what a caller needs to ask for the next: a cursor for
every entry, whether anything lies before or behind the page, and the length of the board.

`paginate` finds both cursors on the board by bisection, takes the entries between them, and keeps
the first or the last of those. The two ends of the page are clamped so that they are in order and
on the board whatever board and request it is given. -/

namespace Standings

/-- An entry of a page with its cursor. -/
structure Edge where
  /-- The entry. -/
  node : Standing
  /-- The cursor that points at it. -/
  cursor : String
  deriving DecidableEq, Repr

/-- How a page lies on its board. -/
structure PageInfo where
  /-- Something lies behind the page. -/
  hasNextPage : Bool
  /-- Something lies before the page. -/
  hasPreviousPage : Bool
  /-- Cursor of the first entry. -/
  startCursor : Option String
  /-- Cursor of the last entry. -/
  endCursor : Option String
  deriving DecidableEq, Repr

/-- A page of a board. -/
structure Connection where
  /-- The entries of the page, in the order of the board. -/
  edges : List Edge
  /-- How the page lies on the board. -/
  pageInfo : PageInfo
  /-- The length of the board. -/
  totalCount : Nat
  deriving DecidableEq, Repr

namespace Edge

/-- The edge of an entry. -/
def ofStanding (node : Standing) : Edge :=
  ⟨node, Cursor.encode node⟩

end Edge

namespace Page

/-- The part of a board that a page shows: the entries at the indices from `start` up to but not
including `stop`. -/
structure Range where
  /-- Index of the first entry. -/
  start : Nat
  /-- Index behind the last entry. -/
  stop : Nat
  deriving DecidableEq, Repr

/-- Index of the first entry behind the cursor `after`. -/
def Request.lower (request : Request) (board : Board) : Nat :=
  match request.after with
  | some after => board.partitionPoint (request.order.notAfter · after)
  | none => 0

/-- Index behind the last entry before the cursor `before`. -/
def Request.upper (request : Request) (board : Board) : Nat :=
  match request.before with
  | some before => board.partitionPoint (request.order.before · before)
  | none => board.size

/-- The entries between the two cursors of a request. -/
def Request.between (request : Request) (board : Board) : Range :=
  -- A `before` that does not lie behind `after` leaves nothing, at the place of `after`.
  ⟨request.lower board, max (request.upper board) (request.lower board)⟩

/-- The first or the last entries of a range. -/
def Size.keep (size : Size) (range : Range) : Range :=
  match size.side with
  | .first => ⟨range.start, min range.stop (range.start + size.count.toNat)⟩
  -- The difference stops at zero, so a size beyond the range takes all of it.
  | .last => ⟨max (range.stop - size.count.toNat) range.start, range.stop⟩

/-- The entries that answer a request. -/
def Request.range (request : Request) (board : Board) : Range :=
  request.size.keep (request.between board)

/-- The page that shows a range of a board. -/
def Range.connection (range : Range) (board : Board) : Connection :=
  let edges := (board.extract range.start range.stop).toList.map Edge.ofStanding
  { edges
    pageInfo :=
      { hasNextPage := range.stop < board.size
        hasPreviousPage := 0 < range.start
        startCursor := edges.head?.map Edge.cursor
        endCursor := edges.getLast?.map Edge.cursor }
    totalCount := board.size }

end Page

/-- Answers a request from a board sorted in the request's direction. -/
def paginate (board : Board) (request : Page.Request) : Connection :=
  (request.range board).connection board

end Standings
