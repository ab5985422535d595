import Standings.Calendar.Zone
import Standings.Filter

/-! # Windows

A window is the half-open span of time from the start of a local day to the start of a later one:
the next day for a daily window, the Monday after for a weekly one that starts on Monday. Each of
the two boundaries is found by itself, so a window in which the clocks are changed is shorter or
longer than others.

A day starts at the earliest instant at which the local clock reads midnight. Where the clock
skips midnight, midnight is read with the offset in force a day before it.

A boundary outside the calendar has no instant; then there is no window. -/

namespace Standings

open Calendar

/-- The span of time from `start` on and before `stop`. -/
structure Window where
  /-- First instant of the window. -/
  start : Instant
  /-- First instant behind the window. -/
  stop : Instant
  deriving DecidableEq, Repr

namespace Window

/-- Whether an instant lies in the window. -/
def contains (w : Window) (t : Instant) : Bool :=
  w.start ≤ t && t < w.stop

/-- The length of a window in whole seconds. -/
def seconds (w : Window) : Int := w.stop.second - w.start.second

end Window

namespace Calendar

/-- Local midnight of a date as a reading of the local clock. -/
def Date.midnight (d : Date) : Int := d.day * 86400

/-- The second at which a local day starts. -/
def OffsetTable.dayStart (table : OffsetTable) (d : Date) : Int :=
  (table.earliest? d.midnight).getD (d.midnight - table.offsetAt (d.midnight - 86400))

/-- The local date at an instant. -/
def OffsetTable.dateAt (table : OffsetTable) (t : Instant) : Date :=
  ⟨table.localAt t.second / 86400⟩

/-- The instant at which a local day starts, if it lies in the calendar. A skipped midnight is
looked up a day before, which has to lie in the calendar too. -/
def OffsetTable.dayStart? (table : OffsetTable) (d : Date) : Option Instant :=
  if (table.earliest? d.midnight).isSome || (d.addDays (-1)).inCalendar then
    Instant.ofSecond? (table.dayStart d)
  else none

end Calendar

namespace Period

/-- The first date of the period that holds a date. -/
def firstDate (period : Period) (today : Date) : Date :=
  match period with
  | .daily => today
  | .weekly => today.addDays (-today.sinceMonday)

/-- The number of dates in a period. -/
def days : Period → Int
  | .daily => 1
  | .weekly => 7

/-- The window of a period around an instant, for clocks kept by a table. -/
def windowIn? (period : Period) (table : OffsetTable) (now : Instant) : Option Window :=
  -- All three dates have to lie in the calendar before a boundary is looked for.
  let today := table.dateAt now
  let first := period.firstDate today
  let next := first.addDays period.days
  if today.inCalendar && first.inCalendar && next.inCalendar then do
    let start ← table.dayStart? first
    let stop ← table.dayStart? next
    return ⟨start, stop⟩
  else none

end Period

namespace Calendar

/-- The window of a period around an instant in a zone. -/
def Zone.window? (zone : Zone) (period : Period) (now : Instant) : Option Window :=
  period.windowIn? zone.table now

end Calendar

/-- What the time is and where the calendar is read. -/
structure Clock where
  /-- The current instant. -/
  now : Instant
  /-- The zone of days and weeks. -/
  zone : Zone
  deriving DecidableEq, Repr

/-- The window of a period around the current instant. -/
def Clock.window? (clock : Clock) (period : Period) : Option Window :=
  clock.zone.window? period clock.now

end Standings
