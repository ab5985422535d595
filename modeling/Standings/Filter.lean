import Standings.Standing

/-! # Filters

What a ranking query asks: what is counted, in which direction the board lists scores, and over
which period. -/

namespace Standings

/-- What a score counts. -/
inductive Metric where
  /-- The sum of the points granted. -/
  | points
  /-- The number of different questions solved. -/
  | completedQuestions
  deriving DecidableEq, Repr

/-- The length of the time over which is counted. -/
inductive Period where
  /-- A day of the calendar. -/
  | daily
  /-- A week of the calendar, from Monday on. -/
  | weekly
  deriving DecidableEq, Repr

/-- What a ranking query asks. -/
structure Filter where
  /-- What is counted. -/
  metric : Metric
  /-- The direction of the board. -/
  order : Direction
  /-- The period that holds the current instant. -/
  period : Period
  deriving DecidableEq, Repr

end Standings
