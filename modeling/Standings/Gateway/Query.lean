import Standings.Ranking
import Standings.Text.FormUrlencoded
import Standings.Wire

/-! # Ranking queries

The query string of a ranking request: a filter, which has to be there in full, and page
arguments, which may be absent. Names that nobody knows are passed over. Pairs are read from left
to right; a name that comes twice, a choice that is none, or a size that is no number is refused
at once, and what is missing is looked for in the end. -/

namespace Standings

namespace Gateway

/-- What is wrong with a query string. -/
inductive QueryError where
  /-- A part of the filter is missing. -/
  | missing (name : String)
  /-- A name comes twice. -/
  | duplicate (name : String)
  /-- A value is none of the choices. -/
  | unknownChoice (name value : String) (choices : List String)
  /-- A value is no number. -/
  | notNumber (name : String) (fault : Decimal.Fault)
  deriving DecidableEq, Repr

/-- The sentence that reports what is wrong. -/
def QueryError.message (e : QueryError) : String :=
  "Failed to deserialize query string: " ++ match e with
    | .missing name => "missing field `" ++ name ++ "`"
    | .duplicate name => "duplicate field `" ++ name ++ "`"
    | .unknownChoice name value choices =>
      name ++ ": unknown variant `" ++ value ++ "`, expected "
        ++ " or ".intercalate (choices.map fun choice => "`" ++ choice ++ "`")
    | .notNumber name fault => name ++ ": " ++ fault.message

/-- What has been read of a query string. -/
structure QueryDraft where
  /-- What is counted. -/
  metric : Option Metric := none
  /-- The direction of the board. -/
  order : Option Direction := none
  /-- The period. -/
  period : Option Period := none
  /-- The page arguments. -/
  args : Page.Arguments := {}
  deriving DecidableEq, Repr

namespace QueryDraft

/-- Reads a value for the first time. -/
def once (name : String) (known : Option α) (read : Except QueryError α) : Except QueryError α :=
  match known with
  | some _ => .error (.duplicate name)
  | none => read

/-- Reads a choice. -/
def choice (choices : List (String × α)) (name value : String) : Except QueryError α :=
  match choices.lookup value with
  | some result => .ok result
  | none => .error (.unknownChoice name value (choices.map Prod.fst))

/-- Reads a size. -/
def number (name value : String) : Except QueryError Int64 :=
  (Decimal.readInt64 value.toList).mapError (.notNumber name)

/-- Takes a pair. -/
def take (draft : QueryDraft) (pair : String × String) : Except QueryError QueryDraft :=
  let (name, value) := pair
  let args := draft.args
  if name = "by" then do
    let metric ← once name draft.metric (choice Metric.choices name value)
    return { draft with metric := some metric }
  else if name = "order" then do
    let order ← once name draft.order (choice Direction.choices name value)
    return { draft with order := some order }
  else if name = "period" then do
    let period ← once name draft.period (choice Period.choices name value)
    return { draft with period := some period }
  else if name = "first" then do
    let first ← once name args.first (number name value)
    return { draft with args := { args with first := some first } }
  else if name = "after" then do
    let after ← once name args.after (.ok value)
    return { draft with args := { args with after := some after } }
  else if name = "last" then do
    let last ← once name args.last (number name value)
    return { draft with args := { args with last := some last } }
  else if name = "before" then do
    let before ← once name args.before (.ok value)
    return { draft with args := { args with before := some before } }
  -- A name that nobody knows.
  else return draft

/-- What has to be there. -/
def require (name : String) (value : Option α) : Except QueryError α :=
  match value with
  | some value => .ok value
  | none => .error (.missing name)

/-- The query that has been read, if nothing is missing. -/
def finish (draft : QueryDraft) : Except QueryError (Filter × Page.Arguments) := do
  let metric ← require "by" draft.metric
  let order ← require "order" draft.order
  let period ← require "period" draft.period
  return (⟨metric, order, period⟩, draft.args)

end QueryDraft

/-- Reads a query string. -/
def readQuery (query : List UInt8) : Except QueryError (Filter × Page.Arguments) := do
  let draft ← (FormUrlencoded.pairs query).foldlM QueryDraft.take {}
  draft.finish

end Gateway

end Standings
