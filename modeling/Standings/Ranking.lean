import Standings.Ledger.Service
import Standings.Page.Connection

/-! # Rankings

A ranking query goes through four steps: the page arguments are checked, the window around the
current instant is found, the source is asked for the scores in that window, and a page is cut out
of the board. Nothing is kept between queries. Arguments that are not valid cost no reading, and a
source that fails leaves no page. -/

namespace Standings

/-- Why there is no page. -/
inductive RankingError where
  /-- The page arguments are not valid. -/
  | arguments (cause : Page.ArgumentError)
  /-- The window reaches beyond the calendar. -/
  | outOfCalendar
  /-- The source has failed. -/
  | source (fault : Store.Fault)
  /-- The source has come to its end without a report. -/
  | overflow
  deriving DecidableEq, Repr

/-- The sentence that reports why there is no page. -/
def RankingError.message : RankingError → String
  | .arguments cause => "Invalid input: " ++ cause.message
  | .outOfCalendar => "Window out of range"
  | .source fault => "Ledger read failed: " ++ fault.message
  | .overflow => "attempt to multiply with overflow"

/-- What answers ranking queries: a source of scores, a clock and the sizes that pages may have. -/
structure Engine (σ : Type) where
  /-- Where scores come from. -/
  source : Source σ
  /-- The time of the queries. -/
  clock : Clock
  /-- The sizes of pages. -/
  limits : Page.Limits := {}

namespace Engine

/-- Answers a ranking query. -/
def ranking (engine : Engine σ) (filter : Filter) (args : Page.Arguments) (s : σ) :
    Except RankingError Connection × σ :=
  -- The arguments are checked before the source is asked.
  match args.validate filter.order engine.limits with
  | .error cause => (.error (.arguments cause), s)
  | .ok request =>
    match engine.clock.window? filter.period with
    | none => (.error .outOfCalendar, s)
    | some window =>
      match engine.source filter.metric window s with
      | (.error (.fault fault), s) => (.error (.source fault), s)
      | (.error .overflow, s) => (.error .overflow, s)
      | (.ok tally, s) => (.ok (paginate (rank filter.order tally.standings) request), s)

end Engine

end Standings
