import Standings.Ranking

/-!
# How a query is answered

The four steps of a query, read off once: what it answers and which state it leaves behind, in each
of the cases that its checks tell apart. Later proofs cite these cases and do not look into
`Engine.ranking`.

## Key results

- `Engine.ranking_of_invalid`: arguments that are not valid are answered without the source
- `Engine.ranking_of_valid`: a query that is checked and has a window costs one reading
-/

namespace Standings.Engine

variable {σ : Type} {engine : Engine σ} {filter : Filter} {args : Page.Arguments}

/-- Arguments that are not valid are answered at once; the source is left as it is. -/
theorem ranking_of_invalid {cause : Page.ArgumentError}
    (hinvalid : args.validate filter.order engine.limits = .error cause) (s : σ) :
    engine.ranking filter args s = (.error (.arguments cause), s) := by
  -- The checks come first.
  simp only [ranking, hinvalid]

/-- Without a window there is nothing to ask the source for. -/
theorem ranking_of_outOfCalendar {request : Page.Request}
    (hvalid : args.validate filter.order engine.limits = .ok request)
    (hwindow : engine.clock.window? filter.period = none) (s : σ) :
    engine.ranking filter args s = (.error .outOfCalendar, s) := by
  simp only [ranking, hvalid, hwindow]

/-- What a checked query makes of the source's answer: a page of the board, or what went wrong. -/
def answer (filter : Filter) (request : Page.Request) :
    Except Store.Failure Tally → Except RankingError Connection
  | .error (.fault fault) => .error (.source fault)
  | .error .overflow => .error .overflow
  | .ok tally => .ok (paginate (rank filter.order tally.standings) request)

/-- A checked query asks the source once, for its metric in its window. -/
theorem ranking_of_valid {request : Page.Request} {window : Window}
    (hvalid : args.validate filter.order engine.limits = .ok request)
    (hwindow : engine.clock.window? filter.period = some window) (s : σ) :
    engine.ranking filter args s =
      (answer filter request (engine.source filter.metric window s).1,
        (engine.source filter.metric window s).2) := by
  simp only [ranking, hvalid, hwindow]
  -- The source's answer is passed on case by case.
  cases engine.source filter.metric window s with
  | mk result next =>
    cases result with
    | error failure => cases failure <;> rfl
    | ok tally => rfl

end Standings.Engine
