import Standings.Proofs.Week

/-!
# Windows under a fixed offset

A clock with a fixed offset goes on as UTC does, so it reads every midnight, and only once. A window
then holds the instants whose local date is one of its days, leap seconds included, for such a
second is part of the day that it ends: the day in UTC, or a local one where the clock is off by a
part of a minute. So windows of one period are cells of the time that the calendar has: each instant
lies in the window of its own date and in no other.

## Key results

- `Offset.dayStart?_eq_some_iff`: a day starts where the clock reads its midnight
- `Offset.contains_iff_dateAt`: a window holds the instants with a date of its days
- `Offset.exists_span?_iff`: which days have a window
- `fixed_windows_partition_time`: windows around instants, and two windows of one period
-/

namespace Standings

open Calendar

/-! ## The first date of a period -/

namespace Period

/-- The date on which the period of a date starts: the date itself, or the last Monday up to it. -/
def StartsOn (period : Period) (today first : Date) : Prop :=
  match period with
  | .daily => first = today
  | .weekly => first.sinceMonday = 0 ∧ first.day ≤ today.day ∧ today.day < first.day + 7

theorem startsOn_firstDate (period : Period) (today : Date) :
    period.StartsOn today (period.firstDate today) := by
  cases period with
  | daily => rfl
  | weekly =>
    -- The last Monday is as many days back as the day is from Monday.
    simp only [StartsOn, firstDate, Date.sinceMonday, Date.day_addDays]
    omega

/-- There is no other such date. -/
theorem StartsOn.firstDate_eq {period : Period} {today first : Date}
    (h : period.StartsOn today first) : period.firstDate today = first := by
  cases period with
  | daily => exact h.symm
  | weekly =>
    simp only [StartsOn, Date.sinceMonday] at h
    simp only [firstDate, Date.sinceMonday, Date.addDays]
    -- Two Mondays less than a week apart are one.
    congr 1
    omega

/-- A date lies in the days of its period. -/
theorem StartsOn.mem_days {period : Period} {today first : Date} (h : period.StartsOn today first) :
    first.day ≤ today.day ∧ today.day < first.day + period.days := by
  cases period with
  | daily =>
    obtain rfl : first = today := h
    simp only [days]
    omega
  | weekly => exact h.2

/-- All days of a period start it on the same date. -/
theorem StartsOn.of_mem_days {period : Period} {today first d : Date}
    (h : period.StartsOn today first) (hlow : first.day ≤ d.day)
    (hhigh : d.day < first.day + period.days) : period.StartsOn d first := by
  cases period with
  | daily =>
    simp only [days] at hhigh
    exact congrArg Date.mk (by omega : first.day = d.day)
  | weekly => exact ⟨h.1, hlow, hhigh⟩

end Period

/-! ## Clocks with a fixed offset -/

namespace Calendar

/-- At an instant the local clock reads midnight of a date, on the second. -/
def OffsetTable.ReadsMidnight (table : OffsetTable) (t : Instant) (d : Date) : Prop :=
  table.localAt t.second = d.midnight ∧ t.nano = 0

/-- The clocks of a zone keep a fixed offset. -/
def Zone.HasOffset (zone : Zone) (offset : Offset) : Prop :=
  zone.table = offset.table

theorem Zone.hasOffset_hostLocal : Zone.hostLocal.HasOffset Offset.utc := rfl

theorem Zone.hasOffset_fixed (offset : Offset) : (Zone.fixed offset).HasOffset offset := rfl

namespace Offset

variable {offset : Offset} {first : Date} {days : Int} {window : Window}

theorem localAt_table (offset : Offset) (t : Int) : offset.table.localAt t = t + offset.seconds :=
  rfl

/-- The clock reads every time once. -/
theorem readings_table (offset : Offset) (reading : Int) :
    offset.table.readings reading = [reading - offset.seconds] := by
  have hreads : offset.table.localAt (reading - offset.seconds) = reading := by
    rw [localAt_table, Int.sub_add_cancel]
  have hoffsets : offset.table.offsets = [offset.seconds] := rfl
  rw [OffsetTable.readings, hoffsets, List.map_singleton, List.filter_singleton, hreads,
    decide_eq_true rfl, cond_true]

/-- A day starts where the clock reads its midnight, if the calendar has that second. -/
theorem dayStart?_eq_some_iff {d : Date} {t : Instant} :
    offset.table.dayStart? d = some t ↔ offset.table.ReadsMidnight t d := by
  -- The clock reads every midnight, and once only.
  have hearliest : offset.table.earliest? d.midnight = some (d.midnight - offset.seconds) := by
    rw [OffsetTable.earliest?, readings_table, List.min?_singleton]
  rw [OffsetTable.dayStart?, OffsetTable.dayStart, hearliest, Option.isSome_some, Bool.true_or,
    if_pos rfl, Option.getD_some, Instant.ofSecond?_eq_some_iff, OffsetTable.ReadsMidnight,
    localAt_table]
  refine and_congr_left fun _ => ?_
  omega

/-- A window of several days starts and stops at midnight. -/
theorem readsMidnight_of_span? (hspan : offset.table.span? first days = some window) :
    offset.table.ReadsMidnight window.start first ∧
      offset.table.ReadsMidnight window.stop (first.addDays days) := by
  obtain ⟨-, hstart, hstop⟩ := OffsetTable.span?_eq_some_iff.1 hspan
  exact ⟨dayStart?_eq_some_iff.1 hstart, dayStart?_eq_some_iff.1 hstop⟩

/-- An instant lies in a window exactly if its local date is one of the days of the window. -/
theorem contains_iff_dateAt (hspan : offset.table.span? first days = some window) {t : Instant} :
    window.contains t ↔
      first.day ≤ (offset.table.dateAt t).day ∧
        (offset.table.dateAt t).day < first.day + days := by
  obtain ⟨⟨hstart, hstart_nano⟩, hstop, hstop_nano⟩ := readsMidnight_of_span? hspan
  rw [localAt_table, Date.midnight] at hstart hstop
  -- The window in seconds: from midnight to midnight, less the offset.
  rw [Date.day_addDays] at hstop
  -- Of two seconds the earlier one ends, with its leap second, before the other starts.
  have hnano := t.nano_lt
  rw [Window.contains_iff, Instant.le_def, Instant.lt_def]
  simp only [Instant.key, hstart_nano, hstop_nano, OffsetTable.dateAt, localAt_table]
  omega

/-- A window is as long as its days. -/
theorem seconds_of_span? (hspan : offset.table.span? first days = some window) :
    window.seconds = 86400 * days := by
  obtain ⟨⟨hstart, -⟩, hstop, -⟩ := readsMidnight_of_span? hspan
  rw [localAt_table, Date.midnight] at hstart hstop
  rw [Date.day_addDays] at hstop
  rw [Window.seconds]
  omega

/-- The calendar has the start of a day if it has the second at which the clock reads midnight. -/
theorem exists_dayStart?_iff {d : Date} :
    (∃ t, offset.table.dayStart? d = some t) ↔
      firstSecond ≤ d.midnight - offset.seconds ∧ d.midnight - offset.seconds ≤ lastSecond := by
  simp only [dayStart?_eq_some_iff, OffsetTable.ReadsMidnight, localAt_table]
  constructor
  · rintro ⟨t, hmidnight, -⟩
    -- The start is itself the second that is asked for.
    have hcalendar := t.inCalendar
    omega
  · rintro hcalendar
    exact ⟨⟨_, 0, Instant.zero_nano_lt, hcalendar⟩, Int.sub_add_cancel _ _, rfl⟩

/-- Days have a window exactly if the calendar has the first of them, the one behind the last, and
the seconds at which both start. -/
theorem exists_span?_iff (hdays : 0 ≤ days) :
    (∃ window, offset.table.span? first days = some window) ↔
      (first.inCalendar ∧ (first.addDays days).inCalendar) ∧
        firstSecond ≤ first.midnight - offset.seconds ∧
        (first.addDays days).midnight - offset.seconds ≤ lastSecond := by
  -- The boundaries are in order, so either of them bounds the other.
  have hle : first.midnight ≤ (first.addDays days).midnight := by
    simp only [Date.midnight, Date.day_addDays]
    omega
  constructor
  · rintro ⟨window, hspan⟩
    obtain ⟨hcalendar, hstart, hstop⟩ := OffsetTable.span?_eq_some_iff.1 hspan
    exact ⟨hcalendar, (exists_dayStart?_iff.1 ⟨_, hstart⟩).1, (exists_dayStart?_iff.1 ⟨_, hstop⟩).2⟩
  · rintro ⟨hcalendar, hlow, hhigh⟩
    obtain ⟨start, hstart⟩ := exists_dayStart?_iff.2 ⟨hlow, by omega⟩
    obtain ⟨stop, hstop⟩ := exists_dayStart?_iff.2 ⟨by omega, hhigh⟩
    exact ⟨⟨start, stop⟩, OffsetTable.span?_eq_some_iff.2 ⟨hcalendar, hstart, hstop⟩⟩

end Offset

end Calendar

/-! ## Windows around instants -/

/-- What the window around an instant is under a fixed offset: it holds the instant, starts and
stops as the clock reads midnight of the first date of the period and of the next period's, is as
long as the days between, and is the window around each of its instants. -/
structure Calendar.Zone.IsCell (zone : Zone) (period : Period) (now : Instant) (window : Window) :
    Prop where
  /-- The instant lies in its window. -/
  contains_now : window.contains now
  /-- The window goes from one midnight to another, and the period of the local date starts with
  the first of them. -/
  reads_midnight : ∃ first : Date, period.StartsOn (zone.table.dateAt now) first ∧
    period.StartsOn (first.addDays period.days) (first.addDays period.days) ∧
    zone.table.ReadsMidnight window.start first ∧
    zone.table.ReadsMidnight window.stop (first.addDays period.days)
  /-- It is one day or seven days long. -/
  seconds_eq : window.seconds = 86400 * period.days
  /-- The window around any instant in it is this one. -/
  window?_eq : ∀ t, window.contains t → zone.window? period t = some window

namespace Calendar.Zone

variable {zone : Zone} {offset : Offset} {period : Period} {now : Instant} {window : Window}

/-- A window is that of a period's days, of which today is one. -/
theorem exists_first_of_window? (h : zone.window? period now = some window) :
    ∃ first : Date, period.StartsOn (zone.table.dateAt now) first ∧
      zone.table.span? first period.days = some window :=
  ⟨_, period.startsOn_firstDate _, OffsetTable.span?_of_windowIn? h⟩

theorem isCell_of_window? (hzone : zone.HasOffset offset)
    (h : zone.window? period now = some window) : zone.IsCell period now window := by
  obtain ⟨first, hfirst, hspan⟩ := exists_first_of_window? h
  rw [Zone.HasOffset] at hzone
  -- Both dates are in the calendar, and so are those between them.
  obtain ⟨⟨hstart, hnext⟩, -⟩ := OffsetTable.span?_eq_some_iff.1 hspan
  rw [hzone] at hfirst hspan
  constructor
  -- Today is one of the window's days.
  case contains_now => exact (Offset.contains_iff_dateAt hspan).2 hfirst.mem_days
  case reads_midnight =>
    obtain ⟨hmidnight, hmidnight'⟩ := Offset.readsMidnight_of_span? hspan
    rw [hzone]
    refine ⟨first, hfirst, ?_, hmidnight, hmidnight'⟩
    cases period with
    | daily => rfl
    | weekly =>
      simp only [Period.StartsOn, Date.sinceMonday, Date.day_addDays, Period.days] at hfirst ⊢
      omega
  case seconds_eq => exact Offset.seconds_of_span? hspan
  case window?_eq =>
    intro t ht
    -- The date of an instant in the window is one of its days, so its period is this one.
    obtain ⟨hlow, hhigh⟩ := (Offset.contains_iff_dateAt hspan).1 ht
    have htoday : (offset.table.dateAt t).inCalendar := by
      apply Date.inCalendar_of_between hstart hnext hlow
      rw [Date.day_addDays]
      omega
    rw [Zone.window?, hzone, OffsetTable.windowIn?_eq_span? htoday,
      (hfirst.of_mem_days hlow hhigh).firstDate_eq, hspan]

end Calendar.Zone

/-- If the clocks of a zone keep a fixed offset, as the host's do or those of a zone that is an
offset, the window around an instant is a cell of the calendar's time: see `Zone.IsCell`. Two
windows of one period are the same or have no instant in common. There is a window exactly if its
dates and its boundaries lie in the calendar. -/
theorem fixed_windows_partition_time {zone : Zone} {offset : Offset}
    (hzone : zone.HasOffset offset) (period : Period) :
    (∀ now window, zone.window? period now = some window → zone.IsCell period now window) ∧
    (∀ now now' window window', zone.window? period now = some window →
      zone.window? period now' = some window' → window = window' ∨ window.Disjoint window') ∧
    ∀ now, ∀ first, period.StartsOn (zone.table.dateAt now) first →
      ((∃ window, zone.window? period now = some window) ↔
        (first.inCalendar ∧ (first.addDays period.days).inCalendar) ∧
          firstSecond ≤ first.midnight - offset.seconds ∧
          (first.addDays period.days).midnight - offset.seconds ≤ lastSecond) := by
  refine ⟨fun now window => Zone.isCell_of_window? hzone, ?_, ?_⟩
  · intro now now' window window' h h'
    have hcell := Zone.isCell_of_window? hzone h
    -- Either the windows share an instant or they do not.
    have hcell' := Zone.isCell_of_window? hzone h'
    by_cases hcommon : ∃ t, window.contains t ∧ window'.contains t
    · -- An instant in both has a window of its own, which is either of them.
      obtain ⟨t, ht, ht'⟩ := hcommon
      have heq := hcell.window?_eq t ht
      rw [hcell'.window?_eq t ht'] at heq
      exact .inl (Option.some.inj heq).symm
    · exact .inr fun t ht => hcommon ⟨t, ht⟩
  · intro now first hfirst
    have hdays : 0 ≤ period.days := by cases period <;> decide
    -- A window around now is a window of the period's days, and the other way round.
    rw [← Offset.exists_span?_iff hdays, ← hzone]
    refine exists_congr fun window => ?_
    constructor
    · intro h
      have hspan := OffsetTable.span?_of_windowIn? h
      rwa [hfirst.firstDate_eq] at hspan
    · intro hspan
      obtain ⟨⟨hstart, hnext⟩, -⟩ := OffsetTable.span?_eq_some_iff.1 hspan
      obtain ⟨hlow, hhigh⟩ := hfirst.mem_days
      have htoday : (zone.table.dateAt now).inCalendar := by
        apply Date.inCalendar_of_between hstart hnext hlow
        rw [Date.day_addDays]
        omega
      rw [Zone.window?, OffsetTable.windowIn?_eq_span? htoday, hfirst.firstDate_eq, hspan]

namespace Sample

/-- The last millisecond of the leap second at the end of the year 2016. -/
def leapSecond : Instant := ⟨1483228799, 1999000000, by decide, by decide⟩

/-- A zone whose clocks are a second ahead of UTC. -/
def ahead : Zone := .fixed ⟨1, by decide⟩

/-- New Year's Eve in UTC, of which the leap second is the end. -/
def newYearsEve : Window :=
  ⟨⟨1483142400, 0, Instant.zero_nano_lt, by decide⟩,
    ⟨1483228800, 0, Instant.zero_nano_lt, by decide⟩⟩

/-- New Year's Day, a Sunday, where the clocks are ahead. -/
def newYearsDay : Window :=
  ⟨⟨1483228799, 0, Instant.zero_nano_lt, by decide⟩,
    ⟨1483315199, 0, Instant.zero_nano_lt, by decide⟩⟩

/-- The week of that Sunday. -/
def lastWeek : Window :=
  ⟨⟨1482710399, 0, Instant.zero_nano_lt, by decide⟩,
    ⟨1483315199, 0, Instant.zero_nano_lt, by decide⟩⟩

/-- A zone whose clocks are half a minute ahead of UTC. -/
def halfMinuteAhead : Zone := .fixed ⟨30, by decide⟩

/-- The last millisecond of a leap second at the end of 2016 on these clocks: behind 23:59:59, which
is 23:59:29 in UTC. -/
def localLeapSecond : Instant := ⟨1483228769, 1999000000, by decide, by decide⟩

/-- New Year's Eve on these clocks. -/
def localNewYearsEve : Window :=
  ⟨⟨1483142370, 0, Instant.zero_nano_lt, by decide⟩,
    ⟨1483228770, 0, Instant.zero_nano_lt, by decide⟩⟩

end Sample

/-- The leap second lies in the window of New Year's Eve in UTC. A second ahead of UTC it already
belongs to New Year's Day and to the week that ends with it, and the calendar has the window of the
day because it has the second at which the day starts and the one at which it stops. Half a minute
ahead, the leap second of the local year lies in the window of the local New Year's Eve. -/
theorem fixed_windows_partition_time_leap_second :
    Zone.hostLocal.IsCell .daily Sample.leapSecond Sample.newYearsEve ∧
      Sample.ahead.IsCell .daily Sample.leapSecond Sample.newYearsDay ∧
      Sample.ahead.IsCell .weekly Sample.leapSecond Sample.lastWeek ∧
      (∃ window, Sample.ahead.window? .daily Sample.leapSecond = some window) ∧
      Sample.halfMinuteAhead.IsCell .daily Sample.localLeapSecond Sample.localNewYearsEve := by
  have hzone : Sample.ahead.HasOffset ⟨1, by decide⟩ := Zone.hasOffset_fixed _
  -- The offsets are fixed, and the windows are computed.
  have hhalf : Sample.halfMinuteAhead.HasOffset ⟨30, by decide⟩ := Zone.hasOffset_fixed _
  obtain ⟨heve, -, -⟩ := fixed_windows_partition_time Zone.hasOffset_hostLocal .daily
  obtain ⟨hday, -, hexists⟩ := fixed_windows_partition_time hzone .daily
  obtain ⟨hweek, -, -⟩ := fixed_windows_partition_time hzone .weekly
  obtain ⟨hlocal, -, -⟩ := fixed_windows_partition_time hhalf .daily
  have hfirst : Period.daily.StartsOn (Sample.ahead.table.dateAt Sample.leapSecond) ⟨17167⟩ := rfl
  exact ⟨heve _ _ (by decide +kernel), hday _ _ (by decide +kernel), hweek _ _ (by decide +kernel),
    (hexists _ _ hfirst).2 (by decide), hlocal _ _ (by decide +kernel)⟩

end Standings
