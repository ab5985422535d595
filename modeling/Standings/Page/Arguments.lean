import Standings.Cursor
import Standings.Text.Quoted

/-! # Page arguments

A caller asks for the first or the last entries of a board, after one cursor and before another.
`Arguments.validate` turns what was asked into a `Request` that can be answered from any board, or
names the first thing wrong with it. It looks at no board, so a bad question costs no reading.

The checks run in this order: both sizes given; the size's sign, then its limit; `after` is a
cursor; `before` is a cursor; `after` stands before `before`. -/

namespace Standings

namespace Page

/-- The sizes a service allows. -/
structure Limits where
  /-- Size of a page for which no size is asked. -/
  defaultSize : UInt64 := 50
  /-- Greatest size that may be asked for. -/
  maxSize : UInt64 := 500
  deriving DecidableEq, Repr

/-- Which end of what lies between the cursors a page is taken from. -/
inductive Side where
  /-- The first entries. -/
  | first
  /-- The last entries. -/
  | last
  deriving DecidableEq, Repr

/-- The argument that asks for entries from this side. -/
def Side.name : Side → String
  | .first => "first"
  | .last => "last"

/-- What a caller asks for. An empty cursor text asks for nothing. -/
structure Arguments where
  /-- How many of the first entries. -/
  first : Option Int64 := none
  /-- The cursor after which entries are wanted. -/
  after : Option String := none
  /-- How many of the last entries. -/
  last : Option Int64 := none
  /-- The cursor before which entries are wanted. -/
  before : Option String := none
  deriving DecidableEq, Repr

/-- What is wrong with page arguments. -/
inductive ArgumentError where
  /-- Both sizes are given. -/
  | bothSizes
  /-- The size is below zero. -/
  | negative (side : Side)
  /-- The size is above the limit. -/
  | tooLarge (side : Side) (maxSize : UInt64)
  /-- A cursor text is no cursor. -/
  | malformedCursor (text : String)
  /-- The two cursors leave no place between them. -/
  | cursorsOutOfOrder
  deriving DecidableEq, Repr

/-- The sentence that reports what is wrong. -/
def ArgumentError.message : ArgumentError → String
  | .bothSizes => "Arguments `first` and `last` are mutually exclusive"
  | .negative side => "Argument `" ++ side.name ++ "` must be non-negative"
  | .tooLarge side maxSize =>
    "Argument `" ++ side.name ++ "` must not exceed " ++ Decimal.write maxSize.toNat
  | .malformedCursor text => "Malformed cursor: " ++ Text.quote text
  | .cursorsOutOfOrder => "Cursor `after` must sort before cursor `before`"

/-- How many entries a page holds at most, and from which side. -/
structure Size where
  /-- The side they are taken from. -/
  side : Side
  /-- Their greatest number. -/
  count : UInt64
  deriving DecidableEq, Repr

/-- A valid question to a board sorted in `order`. -/
structure Request where
  /-- The direction of the board. -/
  order : Direction
  /-- How many entries, from which side. -/
  size : Size
  /-- Only entries after this place. -/
  after : Option Standing
  /-- Only entries before this place. -/
  before : Option Standing
  deriving DecidableEq, Repr

/-- Accepts a size between zero and the limit. -/
def Limits.accept (limits : Limits) (side : Side) (n : Int64) : Except ArgumentError Size :=
  -- The sign comes first: below zero there is no count to compare with the limit.
  if n < 0 then .error (.negative side)
  else if n.toUInt64 ≤ limits.maxSize then .ok ⟨side, n.toUInt64⟩
  else .error (.tooLarge side limits.maxSize)

/-- The size asked for: one of the two, or the default from the first side, which is not held
against the limit. -/
def Arguments.size (args : Arguments) (limits : Limits) : Except ArgumentError Size :=
  match args.first, args.last with
  | some _, some _ => .error .bothSizes
  | some n, none => limits.accept .first n
  | none, some n => limits.accept .last n
  | none, none => .ok ⟨.first, limits.defaultSize⟩

/-- The place a cursor argument points at, if it is given. -/
def place : Option String → Except ArgumentError (Option Standing)
  | none => .ok none
  | some text =>
    if text = "" then .ok none
    else match Cursor.decode? text with
      | some key => .ok (some key)
      | none => .error (.malformedCursor text)

/-- Whether there is room between two places. -/
def inOrder (order : Direction) : Option Standing → Option Standing → Bool
  | some after, some before => order.before after before
  | _, _ => true

/-- Checks page arguments for a board sorted in `order`. -/
def Arguments.validate (args : Arguments) (order : Direction) (limits : Limits) :
    Except ArgumentError Request := do
  -- Each line may fail, and the first that does is reported.
  let size ← args.size limits
  let after ← place args.after
  let before ← place args.before
  if inOrder order after before then
    return { order, size, after, before }
  else
    throw .cursorsOutOfOrder

end Page

end Standings
