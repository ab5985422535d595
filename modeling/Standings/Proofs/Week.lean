import Standings.Proofs.DayStart
import Standings.Proofs.Tiling

/-!
# A week is its seven days

The boundaries of windows are found one by one, each as the start of a day. With regular clocks they
come in the order of their dates, so a window of several days is tiled by the windows of its days,
however long each of them is; a day that the clock skips has an empty window. A weekly tally is made
of the daily ones accordingly.

## Key results

- `OffsetTable.IsRegular.exists_days`: the windows of days tile the window of all of them
- `OffsetTable.IsRegular.isSome_span?`: there is a window for dates that lie inside the calendar
- `week_eq_days`: the week, its days, and what its tallies are made of
-/

namespace Standings

open Calendar

/-! ## Dates -/

namespace Calendar.Date

@[simp] theorem day_addDays (d : Date) (n : Int) : (d.addDays n).day = d.day + n := rfl

theorem addDays_addDays (d : Date) (m n : Int) : (d.addDays m).addDays n = d.addDays (m + n) :=
  congrArg Date.mk (Int.add_assoc _ _ _)

@[simp] theorem addDays_zero (d : Date) : d.addDays 0 = d := congrArg Date.mk (Int.add_zero _)

theorem inCalendar_iff {d : Date} : d.inCalendar ↔ first.day ≤ d.day ∧ d.day ≤ last.day := by
  rw [inCalendar, Bool.and_eq_true, decide_eq_true_eq, decide_eq_true_eq]

/-- A date between two dates of the calendar lies in it. -/
theorem inCalendar_of_between {d early late : Date} (hearly : early.inCalendar)
    (hlate : late.inCalendar) (hlow : early.day ≤ d.day) (hhigh : d.day ≤ late.day) :
    d.inCalendar := by
  rw [inCalendar_iff] at *
  omega

end Calendar.Date

/-! ## Windows of several days -/

namespace Calendar.OffsetTable

/-- The window of a number of days from a date on, if the calendar has its boundaries. -/
def span? (table : OffsetTable) (first : Date) (days : Int) : Option Window :=
  let next := first.addDays days
  if first.inCalendar && next.inCalendar then do
    let start ← table.dayStart? first
    let stop ← table.dayStart? next
    return ⟨start, stop⟩
  else none

variable {table : OffsetTable}

/-- A window of several days starts with the first day and stops with the day behind the last. -/
theorem span?_eq_some_iff {first : Date} {days : Int} {window : Window} :
    table.span? first days = some window ↔
      (first.inCalendar ∧ (first.addDays days).inCalendar) ∧
        table.dayStart? first = some window.start ∧
        table.dayStart? (first.addDays days) = some window.stop := by
  obtain ⟨start, stop⟩ := window
  rw [span?]
  split
  · next hcalendar =>
    rw [Bool.and_eq_true] at hcalendar
    simp only [hcalendar, true_and, and_self]
    -- Both boundaries are there, or the window is not.
    cases table.dayStart? first <;> cases table.dayStart? (first.addDays days) <;>
      simp [bind, Option.bind, pure]
  · next hcalendar =>
    rw [Bool.and_eq_true] at hcalendar
    simp [hcalendar]

/-- The window of a period is that of its days. -/
theorem windowIn?_eq_span? {period : Period} {now : Instant}
    (htoday : (table.dateAt now).inCalendar) :
    period.windowIn? table now =
      table.span? (period.firstDate (table.dateAt now)) period.days := by
  simp only [Period.windowIn?, span?, htoday, Bool.true_and]

/-- The window of a period, if there is one, is that of its days. -/
theorem span?_of_windowIn? {period : Period} {now : Instant} {window : Window}
    (h : period.windowIn? table now = some window) :
    table.span? (period.firstDate (table.dateAt now)) period.days = some window := by
  by_cases htoday : (table.dateAt now).inCalendar
  · rw [← windowIn?_eq_span? htoday, h]
  · -- Without today in the calendar there is no window at all.
    simp [Period.windowIn?, htoday] at h

/-- The instant at which a day starts is the second at which it does. -/
theorem second_of_dayStart? {d : Date} {t : Instant} (h : table.dayStart? d = some t) :
    t.second = table.dayStart d ∧ t.nano = 0 := by
  rw [dayStart?] at h
  split at h
  · exact Instant.ofSecond?_eq_some_iff.1 h
  · cases h

/-- The calendar has the start of a day if it has the day before and the second. -/
theorem exists_dayStart? {d : Date} (hbefore : (d.addDays (-1)).inCalendar)
    (hlow : firstSecond ≤ table.dayStart d) (hhigh : table.dayStart d ≤ lastSecond) :
    ∃ t, table.dayStart? d = some t := by
  refine ⟨⟨table.dayStart d, 0, Instant.zero_nano_lt, hlow, hhigh⟩, ?_⟩
  -- The day before is needed only where midnight is skipped.
  rw [dayStart?, hbefore, Bool.or_true, if_pos rfl]
  exact Instant.ofSecond?_eq_some_iff.2 ⟨rfl, rfl⟩

namespace IsRegular

/-- A window stops after its start or with it. -/
theorem start_le_stop (h : table.IsRegular) {first : Date} {days : Int} (hdays : 0 ≤ days)
    {window : Window} (hspan : table.span? first days = some window) :
    window.start ≤ window.stop := by
  obtain ⟨-, hstart, hstop⟩ := span?_eq_some_iff.1 hspan
  obtain ⟨hstart, hstart_nano⟩ := second_of_dayStart? hstart
  obtain ⟨hstop, hstop_nano⟩ := second_of_dayStart? hstop
  -- The boundaries are whole seconds, in the order of their dates.
  have hle : table.dayStart first ≤ table.dayStart (first.addDays days) :=
    h.dayStart_le_dayStart (Int.le_add_of_nonneg_right hdays)
  rw [Instant.le_def, Instant.key, Instant.key, hstart_nano, hstop_nano]
  omega

/-- A window of several days can be cut at the start of any day in it. -/
theorem exists_cut (h : table.IsRegular) {first : Date} {days later : Int} (hdays : 0 < days)
    (hlater : 0 < later) {window : Window}
    (hspan : table.span? first (days + later) = some window) :
    ∃ cut, table.span? first days = some ⟨window.start, cut⟩ ∧
      table.span? (first.addDays days) later = some ⟨cut, window.stop⟩ := by
  rw [span?_eq_some_iff, ← Date.addDays_addDays] at hspan
  obtain ⟨⟨hfirst, hnext⟩, hstart, hstop⟩ := hspan
  -- The cut lies between two instants of the calendar.
  have hlow : window.start.second ≤ table.dayStart (first.addDays days) := by
    rw [(second_of_dayStart? hstart).1]
    exact h.dayStart_le_dayStart (Int.le_add_of_nonneg_right hdays.le)
  have hhigh : table.dayStart (first.addDays days) ≤ window.stop.second := by
    rw [(second_of_dayStart? hstop).1]
    exact h.dayStart_le_dayStart (Int.le_add_of_nonneg_right hlater.le)
  -- The day of the cut and the day before it lie between the first and the last.
  have hmiddle : (first.addDays days).inCalendar := by
    apply Date.inCalendar_of_between hfirst hnext <;> simp only [Date.day_addDays] <;> omega
  have hbefore : ((first.addDays days).addDays (-1)).inCalendar := by
    apply Date.inCalendar_of_between hfirst hnext <;> simp only [Date.day_addDays] <;> omega
  obtain ⟨cut, hcut⟩ := exists_dayStart? hbefore (window.start.inCalendar.1.trans hlow)
    (hhigh.trans window.stop.inCalendar.2)
  -- Both parts start and stop where the whole does, apart from the cut.
  exact ⟨cut, span?_eq_some_iff.2 ⟨⟨hfirst, hmiddle⟩, hstart, hcut⟩,
    span?_eq_some_iff.2 ⟨⟨hmiddle, hnext⟩, hcut, hstop⟩⟩

/-- The windows of days one after the other tile the window of all. -/
theorem exists_days (h : table.IsRegular) {first : Date} {days : Nat} (hdays : 0 < days)
    {window : Window} (hspan : table.span? first days = some window) :
    ∃ tiles : List Window, tiles.length = days ∧
      (∀ k < days, tiles[k]? = table.span? (first.addDays k) 1) ∧
      Window.Tiles window.start tiles window.stop := by
  -- Induction on the number of days, from one day on.
  induction days, hdays using Nat.le_induction generalizing first window with
  | base =>
    refine ⟨[window], rfl, ?_, .cons (h.start_le_stop (by decide) hspan) (.nil _)⟩
    intro k hk
    obtain rfl : k = 0 := by omega
    rw [Int.natCast_zero, Date.addDays_zero]
    exact hspan.symm
  | succ days hdays ih =>
    -- The first day is cut off; the other days tile the rest.
    rw [Int.natCast_succ, Int.add_comm] at hspan
    obtain ⟨cut, hday, hlater⟩ := h.exists_cut Int.one_pos (by omega) hspan
    obtain ⟨tiles, hlength, hget, htiles⟩ := ih hlater
    refine ⟨⟨window.start, cut⟩ :: tiles, by rw [List.length_cons, hlength], ?_,
      .cons (h.start_le_stop (by decide) hday) htiles⟩
    intro k hk
    cases k with
    -- The first tile is the day that was cut off, the others are a day further on.
    | zero =>
      rw [Int.natCast_zero, Date.addDays_zero]
      exact hday.symm
    | succ k =>
      rw [List.getElem?_cons_succ, hget k (by omega), Date.addDays_addDays, Int.natCast_succ,
        Int.add_comm]

end IsRegular

/-- A day has a start if the days to either side lie in the calendar. -/
theorem IsSpaced.exists_dayStart?_of_inside (h : table.IsSpaced) {d : Date}
    (hbefore : (d.addDays (-1)).inCalendar) (hbehind : (d.addDays 1).inCalendar) :
    ∃ t, table.dayStart? d = some t := by
  obtain ⟨hlow, hhigh⟩ := h.dayStart_bounds d
  have hfirst := (Date.inCalendar_iff.1 hbefore).1
  have hlast := (Date.inCalendar_iff.1 hbehind).2
  -- A day starts less than a day from its midnight in UTC, which is in the calendar too.
  simp only [Date.day_addDays, Date.midnight] at hlow hhigh hfirst hlast
  apply exists_dayStart? hbefore
  · rw [firstSecond]
    omega
  · rw [lastSecond]
    omega

/-- Days inside the calendar, with a day to either side, have a window. -/
theorem IsSpaced.isSome_span? (h : table.IsSpaced) {first : Date} {days : Int} (hdays : 0 ≤ days)
    (hbefore : (first.addDays (-1)).inCalendar) (hbehind : (first.addDays (days + 1)).inCalendar) :
    (table.span? first days).isSome := by
  -- All dates from the day before to the day behind.
  have hinside : ∀ n, -1 ≤ n → n ≤ days + 1 → (first.addDays n).inCalendar := by
    intro n hlow hhigh
    apply Date.inCalendar_of_between hbefore hbehind <;> simp only [Date.day_addDays] <;> omega
  have hstarts : ∀ n, 0 ≤ n → n ≤ days → ∃ t, table.dayStart? (first.addDays n) = some t := by
    intro n hlow hhigh
    apply h.exists_dayStart?_of_inside <;> rw [Date.addDays_addDays] <;> apply hinside <;> omega
  -- The two boundaries.
  obtain ⟨start, hstart⟩ := hstarts 0 (by omega) hdays
  obtain ⟨stop, hstop⟩ := hstarts days hdays (by omega)
  have hfirst := hinside 0 (by omega) (by omega)
  rw [Date.addDays_zero] at hstart hfirst
  have hspan : table.span? first days = some ⟨start, stop⟩ :=
    span?_eq_some_iff.2 ⟨⟨hfirst, hinside days (by omega) (by omega)⟩, hstart, hstop⟩
  rw [hspan, Option.isSome_some]

theorem IsRegular.isSome_span? (h : table.IsRegular) {first : Date} {days : Int} (hdays : 0 ≤ days)
    (hbefore : (first.addDays (-1)).inCalendar) (hbehind : (first.addDays (days + 1)).inCalendar) :
    (table.span? first days).isSome :=
  h.isSpaced.isSome_span? hdays hbefore hbehind

end Calendar.OffsetTable

/-! ## The week -/

/-- What the tallies of a window say about a user, if the tallies of its days are known. -/
structure Ledger.MadeOf (ledger : Ledger) (window : Window) (days : List Window) (user : UserId) :
    Prop where
  /-- Who is in a tally on some day is in that of the window, and nobody else is. -/
  mem_iff : ∀ metric, user ∈ ledger.tally metric window ↔
    ∃ day ∈ days, user ∈ ledger.tally metric day
  /-- Points add up in words of 64 bits. -/
  score_points : (ledger.tally .points window).score user =
    (days.map fun day => (ledger.tally .points day).score user).sum
  /-- They add up as numbers if words suffice for the sums of the user's points. -/
  toInt_score_points : (ledger.grantsTo window user).length ≤ 2 ^ 32 →
    ((ledger.tally .points window).score user).toInt =
      (days.map fun day => ((ledger.tally .points day).score user).toInt).sum
  /-- No day has more completed questions than the window. -/
  score_completedQuestions_le : ledger.submissions.length < 2 ^ 63 → ∀ day ∈ days,
    ((ledger.tally .completedQuestions day).score user).toInt ≤
      ((ledger.tally .completedQuestions window).score user).toInt
  /-- The window has no more completed questions than the days together. -/
  score_completedQuestions_le_sum : ledger.submissions.length < 2 ^ 63 →
    ((ledger.tally .completedQuestions window).score user).toInt ≤
      (days.map fun day => ((ledger.tally .completedQuestions day).score user).toInt).sum

/-- The tallies of tiles make the tallies of the window that they tile. -/
theorem Ledger.madeOf_of_tiles {window : Window} {days : List Window}
    (h : Window.Tiles window.start days window.stop) (ledger : Ledger) (user : UserId) :
    ledger.MadeOf window days user where
  mem_iff := mem_tally_of_tiles h
  score_points := score_points_of_tiles h ledger user
  toInt_score_points := toInt_score_points_of_tiles h
  score_completedQuestions_le hsubmissions := (score_completedQuestions_of_tiles h hsubmissions).1
  score_completedQuestions_le_sum hsubmissions :=
    (score_completedQuestions_of_tiles h hsubmissions).2

/-- The days from a Monday on belong to the week that starts with it. -/
theorem Period.firstDate_weekly {monday : Date} (hmonday : monday.sinceMonday = 0) {k : Nat}
    (hk : k < 7) : Period.weekly.firstDate (monday.addDays k) = monday := by
  -- A day's distance from Monday is its number in the week.
  simp only [Date.sinceMonday] at hmonday
  simp only [firstDate, Date.sinceMonday, Date.addDays]
  congr 1
  omega

/-- With regular clocks, days start in the order of their dates, so no window stops before it
starts. A week inside the calendar has a window, and seven windows of days, which are those of the
queries on these days; every instant of the week lies in exactly one of them, and the tallies of the
week are made of theirs. -/
theorem week_eq_days {zone : Zone} (hzone : zone.IsRegular) :
    (∀ (d : Date) (i j : Int), i ≤ j →
      zone.table.dayStart (d.addDays i) ≤ zone.table.dayStart (d.addDays j)) ∧
    (∀ (period : Period) (now : Instant) (window : Window),
      zone.window? period now = some window → window.start ≤ window.stop) ∧
    (∀ monday : Date, (monday.addDays (-1)).inCalendar → (monday.addDays 8).inCalendar →
      (zone.table.span? monday 7).isSome) ∧
    ∀ (monday : Date) (week : Window), monday.sinceMonday = 0 →
      zone.table.span? monday 7 = some week →
      ∃ days : List Window, days.length = 7 ∧
        (∀ k : Nat, k < 7 → days[k]? = zone.table.span? (monday.addDays k) 1) ∧
        (∀ (k : Nat) (now : Instant), k < 7 → zone.table.dateAt now = monday.addDays k →
          zone.window? .daily now = days[k]? ∧ zone.window? .weekly now = some week) ∧
        (∀ t, week.contains t ↔ ∃ day ∈ days, day.contains t) ∧
        days.Pairwise Window.Disjoint ∧
        ∀ (ledger : Ledger) (user : UserId), ledger.MadeOf week days user := by
  have hregular := hzone.table
  refine ⟨?_, ?_, ?_, ?_⟩
  · intro d i j hij
    -- Days in order.
    exact hregular.dayStart_le_dayStart (Int.add_le_add_left hij d.day)
  · intro period now window hwindow
    -- A window goes over no negative number of days.
    have hdays : 0 ≤ period.days := by cases period <;> decide
    exact hregular.start_le_stop hdays (OffsetTable.span?_of_windowIn? hwindow)
  · intro monday hbefore hbehind
    exact hregular.isSome_span? (by decide) hbefore hbehind
  · intro monday week hmonday hspan
    -- The week is cut at its midnights.
    have hseven : 0 < 7 := by decide
    obtain ⟨days, hlength, hget, htiles⟩ := hregular.exists_days hseven hspan
    refine ⟨days, hlength, hget, ?_, fun t => htiles.contains_iff, htiles.pairwise_disjoint,
      Ledger.madeOf_of_tiles htiles⟩
    intro k now hk hdate
    -- Between a Monday and the next, all dates are in the calendar.
    obtain ⟨⟨hfirst, hnext⟩, -⟩ := OffsetTable.span?_eq_some_iff.1 hspan
    have htoday : (zone.table.dateAt now).inCalendar := by
      rw [hdate]
      apply Date.inCalendar_of_between hfirst hnext <;> simp only [Date.day_addDays] <;> omega
    simp only [Zone.window?, OffsetTable.windowIn?_eq_span? htoday, hdate]
    rw [Period.firstDate_weekly hmonday hk]
    exact ⟨(hget k hk).symm, hspan⟩

/-- Samoa, where the clock skipped a Friday. -/
def Sample.samoa : Zone := .named "Pacific/Apia" Place.apia

/-- The week of that Friday in Samoa. -/
def Sample.shortWeek : Window :=
  ⟨⟨1324893600, 0, Instant.zero_nano_lt, by decide⟩,
    ⟨1325412000, 0, Instant.zero_nano_lt, by decide⟩⟩

/-- The week of the Friday that was skipped has seven windows of days as well. The one of the Friday
is empty. -/
theorem week_eq_days_skipped_day :
    ∃ days : List Window, days.length = 7 ∧
      (days[4]?.any fun friday => friday.start = friday.stop) ∧
      ∀ t, Sample.shortWeek.contains t ↔ ∃ day ∈ days, day.contains t := by
  -- The table of the place is regular, by the check over all places.
  have hname : Zone.ofName? "Pacific/Apia" = some Sample.samoa := by decide +kernel
  have hregular : Sample.samoa.IsRegular := Zone.isRegular_of_ofName? hname
  have hspan : Sample.samoa.table.span? ⟨15334⟩ 7 = some Sample.shortWeek := by decide +kernel
  obtain ⟨-, -, -, hweek⟩ := week_eq_days hregular
  obtain ⟨days, hlength, hget, -, hcontains, -⟩ := hweek ⟨15334⟩ Sample.shortWeek (by decide) hspan
  refine ⟨days, hlength, ?_, hcontains⟩
  -- The Friday is the fifth day; its window is computed.
  rw [hget 4 (by decide)]
  decide +kernel

end Standings
