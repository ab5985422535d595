import Standings.Proofs.FixedOffset
import Standings.Proofs.Midnight

/-!
# Whether a day starts with its date

With regular clocks the first instant of a date is that at which the clock comes to its midnight. A
day starts there, unless a shift skips midnight together with readings before it. Then the date
begins with the shift, and the start of the day comes later, by as much as the clock was short of
midnight. What happens in between is of the new date, yet in the window of the day before.

## Key results

- `OffsetTable.IsRegular.isLeast_date`: a date begins when the clock comes to its midnight
- `day_starts_first_iff`: which days start with their dates, and what holds of the others
-/

namespace Standings

open Calendar

namespace Calendar.OffsetTable

variable {table : OffsetTable} {d : Date} {shift : Shift}

/-- The date of a second is read off between two midnights. -/
theorem localAt_div_eq_iff {t : Int} :
    table.localAt t / 86400 = d.day ↔
      d.midnight ≤ table.localAt t ∧ table.localAt t < d.midnight + 86400 := by
  rw [Date.midnight]
  omega

namespace IsRegular

/-- A date begins when the clock comes to its midnight. -/
theorem isLeast_date (h : table.IsRegular) {t : Int}
    (hleast : IsLeast {t | d.midnight ≤ table.localAt t} t)
    (hdate : ∃ t', table.localAt t' / 86400 = d.day) :
    IsLeast {t | table.localAt t / 86400 = d.day} t := by
  obtain ⟨hcome, hearliest⟩ := hleast
  -- What is left to show is that the clock has not come to the next midnight as well.
  refine ⟨localAt_div_eq_iff.2 ⟨hcome, ?_⟩, fun t' ht' => hearliest (localAt_div_eq_iff.1 ht').1⟩
  obtain ⟨t', ht'⟩ := hdate
  obtain ⟨hlow', hhigh'⟩ := localAt_div_eq_iff.1 ht'
  by_contra hpast
  -- The clock has gone past the whole date from one second to the next.
  have hshort : table.localAt (t - 1) < d.midnight := by
    by_contra hearly
    have := hearliest (Int.not_lt.1 hearly)
    omega
  obtain ⟨shift, hshift⟩ := h.isSpaced.exists_shift d.midnight
  have hjump := hshift.jump_le_day h
  have hreached := shift.reached_def
  -- The second and the one before it lie around midnight, where there is but one shift.
  have hlow : d.midnight - 86400 < t := by
    have := (h.isSpaced.reading_bounds (t := t) rfl).1
    have : d.midnight ≤ table.localAt t := hcome
    omega
  have hhigh : t < d.midnight + 86400 := by
    have := (h.isSpaced.reading_bounds (t := t - 1) rfl).2
    omega
  rw [hshift.localAt_eq (by omega) (by omega)] at hshort hpast
  have hmoment : shift.moment = t ∧ shift.after - shift.before = 86400 := by
    split at hshort <;> split at hpast <;> omega
  -- It goes on from the next midnight and does not come back to the date.
  have hlater := h.isSpaced.reached_le_localAt (hshift.mem_shifts (by omega))
    (hmoment.1.trans_le (hearliest hlow'))
  rw [if_neg (by omega)] at hpast
  omega

/-- A clock that skips midnight and readings before it comes to the date with that shift. -/
theorem isLeast_date_of_straddles (h : table.IsRegular) (hshift : shift ∈ table.shifts)
    (hstraddles : shift.Straddles d.midnight) :
    IsLeast {t | table.localAt t / 86400 = d.day} shift.moment := by
  obtain ⟨hshort, hpast⟩ := hstraddles
  -- The first instant at which the clock has come to midnight is the moment of the shift.
  have hskips : shift.Skips d.midnight := ⟨hshort.le, hpast⟩
  apply h.isLeast_date (h.isSpaced.isLeast_moment hshift hskips)
  refine ⟨shift.moment, localAt_div_eq_iff.2 ?_⟩
  -- A shift of a day at most ends within the date if it starts before it.
  have hjump := h.jump_of_mem_shifts hshift
  have hoffset := h.isSpaced.offsetAt_of_mem_shifts hshift (t := shift.moment) (by omega) (by omega)
  have hdue := shift.due_def
  have hreached := shift.reached_def
  rw [if_neg (by omega)] at hoffset
  rw [localAt, hoffset]
  omega

/-- From that shift on until the day starts the clock reads the date. -/
theorem localAt_div_of_straddles (h : table.IsRegular) (hshift : shift ∈ table.shifts)
    (hstraddles : shift.Straddles d.midnight) {t : Int} (ht : shift.moment ≤ t)
    (ht' : t < table.dayStart d) : table.localAt t / 86400 = d.day := by
  obtain ⟨hshort, hpast⟩ := hstraddles
  have hdue := shift.due_def
  have hreached := shift.reached_def
  have hjump := h.jump_of_mem_shifts hshift
  rw [h.isSpaced.dayStart_of_skips hshift ⟨hshort.le, hpast⟩] at ht'
  -- Until the day starts the offset is the one after the shift.
  have hoffset := h.isSpaced.offsetAt_of_mem_shifts hshift (t := t) (by omega) (by omega)
  rw [if_neg (by omega)] at hoffset
  rw [localAt_div_eq_iff, localAt, hoffset]
  omega

/-- By that shift the day before has started. -/
theorem dayStart_le_moment_of_straddles (h : table.IsRegular) (hshift : shift ∈ table.shifts)
    (hstraddles : shift.Straddles d.midnight) :
    table.dayStart (d.addDays (-1)) ≤ shift.moment := by
  by_contra hlate
  -- Else the clock would be short of the midnight of the date, and past it, at the shift.
  have hearly := h.localAt_lt_of_lt_dayStart (Int.not_le.1 hlate)
  have hpast := h.isSpaced.reached_le_localAt hshift le_rfl
  obtain ⟨-, hpast'⟩ := hstraddles
  simp only [Date.midnight, Date.day_addDays] at hearly hpast'
  omega

end IsRegular

theorem dateAt_eq_iff {t : Instant} :
    table.dateAt t = d ↔ table.localAt t.second / 86400 = d.day := by
  obtain ⟨day⟩ := d
  rw [dateAt, Date.mk.injEq]

/-- The calendar has the moment of a shift that skips a midnight, if it has the start of the day. -/
theorem IsSpaced.exists_instant_of_skips (h : table.IsSpaced) {start : Instant}
    (hstart : table.dayStart? d = some start) (hshift : shift ∈ table.shifts)
    (hskips : shift.Skips d.midnight) :
    ∃ first : Instant, first.second = shift.moment ∧ first.nano = 0 := by
  have honce := h.shiftsOnce_of_skips hshift hskips
  have hnone := earliest?_of_skipped (honce.localAt_ne_of_skips h hskips)
  have hsecond := (second_of_dayStart? hstart).1
  -- A skipped midnight is looked up a day before, and the moment lies in between.
  rw [dayStart?, hnone, Option.isSome_none, Bool.false_or] at hstart
  split at hstart
  · next hbefore =>
    have hfirst := (Date.inCalendar_iff.1 hbefore).1
    have hcalendar := start.inCalendar
    have hafter := honce.after_lt_day
    have hreached := shift.reached_def
    rw [h.dayStart_of_skips hshift hskips] at hsecond
    obtain ⟨hshort, hpast⟩ := hskips
    simp only [Date.midnight, Date.day_addDays] at hfirst hsecond hshort hpast
    refine ⟨⟨shift.moment, 0, Instant.zero_nano_lt, ?_⟩, rfl, rfl⟩
    rw [firstSecond] at *
    omega
  · cases hstart

end Calendar.OffsetTable

namespace Calendar.Zone

variable {zone : Zone} {d : Date} {start : Instant} {shift : Shift}

/-- The window of the day before stops where the day starts. -/
theorem start_stop_of_window?_daily {now : Instant} {window : Window}
    (hnow : zone.table.dateAt now = d.addDays (-1))
    (hwindow : zone.window? .daily now = some window) :
    zone.table.dayStart? (d.addDays (-1)) = some window.start ∧
      zone.table.dayStart? d = some window.stop := by
  -- The window of a day is one of its days.
  have hspan := OffsetTable.span?_of_windowIn? hwindow
  rw [hnow] at hspan
  obtain ⟨-, hstart, hstop⟩ := OffsetTable.span?_eq_some_iff.1 hspan
  rw [Period.firstDate, Date.addDays_addDays] at hstop
  exact ⟨hstart, by simpa [Period.days] using hstop⟩

/-- A date begins at an instant with a shift, and the start of its day comes late. -/
structure StartsLate (zone : Zone) (d : Date) (start : Instant) (shift : Shift) (first : Instant) :
    Prop where
  /-- The instant is the moment of the shift. -/
  at_moment : first.second = shift.moment ∧ first.nano = 0
  /-- It is the first of the date. -/
  isLeast_first : IsLeast {t : Instant | zone.table.dateAt t = d} first
  /-- The day starts later, by as much as the clock was short of midnight. -/
  start_eq : start.second = first.second + (d.midnight - shift.due) ∧ start.nano = 0
  /-- What lies in between is of the date. -/
  dateAt_eq : ∀ t, first ≤ t → t < start → zone.table.dateAt t = d
  /-- Yet it lies in the window of the day before. -/
  contains_of_yesterday : ∀ t, first ≤ t → t < start → ∀ (now : Instant) (window : Window),
    zone.table.dateAt now = d.addDays (-1) → zone.window? .daily now = some window →
    window.contains t

/-- A shift from before midnight makes a day start late. -/
theorem exists_startsLate (hzone : zone.IsRegular) (hstart : zone.table.dayStart? d = some start)
    (hshift : shift ∈ zone.table.shifts) (hstraddles : shift.Straddles d.midnight) :
    ∃ first, zone.StartsLate d start shift first := by
  have hregular := hzone.table
  have hskips : shift.Skips d.midnight := ⟨hstraddles.1.le, hstraddles.2⟩
  obtain ⟨hsecond, hnano⟩ := OffsetTable.second_of_dayStart? hstart
  obtain ⟨first, hmoment, hfirst_nano⟩ :=
    hregular.isSpaced.exists_instant_of_skips hstart hshift hskips
  -- Instants in between have seconds in between.
  have hseconds : ∀ t : Instant, first ≤ t → t < start →
      shift.moment ≤ t.second ∧ t.second < zone.table.dayStart d := by
    intro t hfrom hto
    have := t.nano_lt
    rw [Instant.le_def, Instant.key, Instant.key] at hfrom
    rw [Instant.lt_def, Instant.key, Instant.key] at hto
    omega
  refine ⟨first, ⟨hmoment, hfirst_nano⟩, ?_, ⟨?_, hnano⟩, ?_, ?_⟩
  · -- The first second of the date, and so its first instant.
    have hleast := hregular.isLeast_date_of_straddles hshift hstraddles
    rw [← hmoment] at hleast
    simp only [OffsetTable.dateAt_eq_iff]
    exact Instant.isLeast_of_second hleast hfirst_nano
  · rw [hsecond, hregular.isSpaced.dayStart_of_skips hshift hskips, hmoment]
  · -- Until then the clock reads the date.
    intro t hfrom hto
    obtain ⟨hfrom', hto'⟩ := hseconds t hfrom hto
    rw [OffsetTable.dateAt_eq_iff]
    exact hregular.localAt_div_of_straddles hshift hstraddles hfrom' hto'
  · intro t hfrom hto now window hnow hwindow
    -- The window of yesterday has opened by the shift, and closes as the day starts.
    obtain ⟨hopen, hclose⟩ := start_stop_of_window?_daily hnow hwindow
    obtain ⟨hopen_second, hopen_nano⟩ := OffsetTable.second_of_dayStart? hopen
    have hbefore := hregular.dayStart_le_moment_of_straddles hshift hstraddles
    obtain ⟨hfrom', -⟩ := hseconds t hfrom hto
    rw [hstart, Option.some.injEq] at hclose
    rw [Window.contains_iff, ← hclose]
    refine ⟨?_, hto⟩
    rw [Instant.le_def, Instant.key, Instant.key]
    omega

end Calendar.Zone

/-- In a zone with regular clocks, take a date that has an instant, and the start of its day. The
day starts with the first instant of the date exactly if no shift skips midnight together with
readings before it. If a shift does, the date begins with that shift and the day starts late: see
`Zone.StartsLate`. A date inside the calendar has a start. -/
theorem day_starts_first_iff {zone : Zone} (hzone : zone.IsRegular) (d : Date) :
    ((d.addDays (-1)).inCalendar → (d.addDays 1).inCalendar →
      ∃ start, zone.table.dayStart? d = some start) ∧
    ∀ start : Instant, zone.table.dayStart? d = some start → (∃ t, zone.table.dateAt t = d) →
      (IsLeast {t : Instant | zone.table.dateAt t = d} start ↔
        ¬∃ shift ∈ zone.table.shifts, shift.Straddles d.midnight) ∧
      ∀ shift ∈ zone.table.shifts, shift.Straddles d.midnight →
        ∃ first, zone.StartsLate d start shift first := by
  have hregular := hzone.table
  refine ⟨hregular.isSpaced.exists_dayStart?_of_inside, ?_⟩
  rintro start hstart ⟨t, ht⟩
  have hlate : ∀ shift ∈ zone.table.shifts, shift.Straddles d.midnight →
      ∃ first, zone.StartsLate d start shift first :=
    fun shift => Zone.exists_startsLate hzone hstart
  refine ⟨⟨?_, ?_⟩, hlate⟩
  · rintro hleast ⟨shift, hshift, hstraddles⟩
    obtain ⟨first, hfirst⟩ := hlate shift hshift hstraddles
    -- The day would have to start with the shift.
    have hle : start ≤ first := hleast.2 hfirst.isLeast_first.1
    have hstart_second := hfirst.start_eq
    have hfirst_nano := hfirst.at_moment.2
    obtain ⟨hshort, -⟩ := hstraddles
    rw [Instant.le_def, Instant.key, Instant.key] at hle
    omega
  · intro hwhole
    obtain ⟨hsecond, hnano⟩ := OffsetTable.second_of_dayStart? hstart
    -- Without such a shift the day starts as the clock comes to midnight, and so does the date.
    have hmidnight := hregular.isSpaced.isLeast_dayStart (d := d) fun shift hshift hstraddles =>
      hwhole ⟨shift, hshift, hstraddles⟩
    have hdate := hregular.isLeast_date hmidnight ⟨_, OffsetTable.dateAt_eq_iff.1 ht⟩
    rw [← hsecond] at hdate
    simp only [OffsetTable.dateAt_eq_iff]
    exact Instant.isLeast_of_second hdate hnano

namespace Sample

/-- Toronto, where the clock was set from half past 11 in the evening to half past midnight. -/
def toronto : Zone := .named "America/Toronto" Place.toronto

/-- 31 March 1919, the date on which that happened. -/
def shortDate : Date := ⟨-18539⟩

/-- Half past midnight of that date, when it began. -/
def halfPastMidnight : Instant := ⟨-1601753400, 0, Instant.zero_nano_lt, by decide⟩

/-- One in the morning of that date. -/
def oneInTheMorning : Instant := ⟨-1601751600, 0, Instant.zero_nano_lt, by decide⟩

/-- The day before, a day long and so half an hour too long. -/
def longDay : Window :=
  ⟨⟨-1601838000, 0, Instant.zero_nano_lt, by decide⟩, oneInTheMorning⟩

end Sample

/-- In Toronto the day starts half an hour after its date has begun. -/
theorem day_starts_first_iff_toronto :
    Sample.toronto.IsRegular ∧
      Sample.toronto.table.dayStart? Sample.shortDate = some Sample.oneInTheMorning ∧
      (∃ first, Sample.toronto.StartsLate Sample.shortDate Sample.oneInTheMorning
        ⟨-1601753400, -18000, -14400⟩ first) := by
  have hname : Zone.ofName? "America/Toronto" = some Sample.toronto := by decide +kernel
  have hregular := Zone.isRegular_of_ofName? hname
  have hstart : Sample.toronto.table.dayStart? Sample.shortDate = some Sample.oneInTheMorning := by
    decide +kernel
  have hdate : Sample.toronto.table.dateAt Sample.halfPastMidnight = Sample.shortDate := by
    decide +kernel
  obtain ⟨-, hday⟩ := day_starts_first_iff hregular Sample.shortDate
  -- The shift of that night is in the table and straddles midnight.
  obtain ⟨-, hlate⟩ := hday _ hstart ⟨_, hdate⟩
  exact ⟨hregular, hstart, hlate _ (by decide +kernel) (by decide +kernel)⟩

/-- So not every day starts with its date: half past midnight is of the new date, but the day starts
at one, and the window of the day before holds the time in between. -/
theorem not_isLeast_dayStart_toronto :
    Sample.toronto.IsRegular ∧
      Sample.toronto.table.dayStart? Sample.shortDate = some Sample.oneInTheMorning ∧
      Sample.toronto.table.dateAt Sample.halfPastMidnight = Sample.shortDate ∧
      Sample.halfPastMidnight < Sample.oneInTheMorning ∧
      ¬IsLeast {t : Instant | Sample.toronto.table.dateAt t = Sample.shortDate}
        Sample.oneInTheMorning ∧
      Sample.toronto.window? .daily Sample.longDay.start = some Sample.longDay ∧
      Sample.longDay.contains Sample.halfPastMidnight := by
  have hname : Zone.ofName? "America/Toronto" = some Sample.toronto := by decide +kernel
  have hdate : Sample.toronto.table.dateAt Sample.halfPastMidnight = Sample.shortDate := by
    decide +kernel
  refine ⟨Zone.isRegular_of_ofName? hname, by decide +kernel, hdate, by decide, ?_,
    by decide +kernel, by decide⟩
  intro hleast
  -- The first instant of the date would be no later than half past midnight.
  have hle : Sample.oneInTheMorning ≤ Sample.halfPastMidnight := hleast.2 hdate
  exact absurd hle (by decide)

end Standings
