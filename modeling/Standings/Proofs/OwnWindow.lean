import Standings.Proofs.FixedOffset
import Standings.Proofs.Midnight

/-!
# Whether an instant lies in its own window

With changing offsets the window around an instant need not hold it. If the clock skips a midnight
only from that midnight on, every day starts when the clock comes to its midnight, so the window
around an instant never starts after it. It stops when the clock first comes to the closing
midnight; an instant is behind that only if the clock was turned back over the closing midnight.

## Key results

- `Place.skipsFromMidnight_of_mem_all`: all known places but Toronto have such clocks
- `OffsetTable.IsSpaced.isLeast_of_dayStart?`: a day starts when the clock comes to its midnight
- `window_contains_now_iff`: which instants lie in their own windows
-/

namespace Standings

open Calendar

namespace Calendar

/-! ## Midnights that are skipped -/

/-- Readings that a shift skips hold no midnight but the first of them if all are of one date. -/
theorem Shift.skips_from_midnight_iff {shift : Shift} :
    (∀ d : Date, shift.Skips d.midnight → shift.due = d.midnight) ↔
      (shift.reached - 1) / 86400 ≤ shift.due / 86400 := by
  simp only [Skips, Date.midnight]
  constructor
  · intro h
    -- The last midnight before the clock goes on is the one to look at.
    by_contra hlater
    have hfirst := h ⟨(shift.reached - 1) / 86400⟩ (by dsimp only; omega)
    dsimp only at hfirst
    omega
  · -- Midnights are a day apart, so on one date there is room for one of them only.
    intro h d hskips
    omega

namespace OffsetTable

/-- If a clock skips a midnight, it skips nothing before it. -/
def SkipsFromMidnight (table : OffsetTable) : Prop :=
  ∀ shift ∈ table.shifts, ∀ d : Date, shift.Skips d.midnight → shift.due = d.midnight

instance (table : OffsetTable) : Decidable table.SkipsFromMidnight :=
  decidable_of_iff
    (∀ shift ∈ table.shifts, (shift.reached - 1) / 86400 ≤ shift.due / 86400)
    (forall₂_congr fun _ _ => Shift.skips_from_midnight_iff.symm)

/-- No shift then skips a midnight together with readings before it. -/
theorem SkipsFromMidnight.not_straddles {table : OffsetTable} (h : table.SkipsFromMidnight)
    (d : Date) : ∀ shift ∈ table.shifts, ¬shift.Straddles d.midnight := by
  rintro shift hshift ⟨hshort, hpast⟩
  have hexact := h shift hshift d ⟨hshort.le, hpast⟩
  omega

end OffsetTable

/-- All places that the library knows skip midnights in this way, Toronto apart. -/
theorem Place.skipsFromMidnight_of_mem_all :
    ∀ place ∈ Place.all, place.1 ≠ "America/Toronto" → place.2.SkipsFromMidnight := by
  decide +kernel

theorem Zone.skipsFromMidnight_of_ofName? {name : String} {zone : Zone}
    (h : ofName? name = some zone) (hname : name ≠ "America/Toronto") :
    zone.table.SkipsFromMidnight := by
  obtain ⟨table, rfl, hmem⟩ := exists_mem_all_of_ofName? h
  exact Place.skipsFromMidnight_of_mem_all _ hmem hname

/-! ## The start and the stop of a window -/

namespace OffsetTable.IsSpaced

variable {table : OffsetTable}

/-- A day starts at the first instant at which the clock has come to its midnight. -/
theorem isLeast_of_dayStart? (h : table.IsSpaced) {d : Date} {start : Instant}
    (hwhole : ∀ shift ∈ table.shifts, ¬shift.Straddles d.midnight)
    (hstart : table.dayStart? d = some start) :
    IsLeast {t : Instant | d.midnight ≤ table.localAt t.second} start := by
  obtain ⟨hsecond, hnano⟩ := second_of_dayStart? hstart
  have hleast := h.isLeast_dayStart hwhole
  -- Seconds are enough: within a second a clock does not change, and the start is a whole one.
  rw [← hsecond] at hleast
  exact Instant.isLeast_of_second hleast hnano

end OffsetTable.IsSpaced

end Calendar

/-- Take a zone whose changes are two days apart, with offsets below a day, and whose clock skips a
midnight only from that midnight on. A day starts at the first instant at which the clock reads its
midnight or later. So a window never starts after the instant that it is taken around. It holds that
instant exactly if the clock has not come to the closing midnight up to then, and it fails to hold
it exactly if the clock has been turned back over the closing midnight. Inside the calendar, days
have starts and instants have windows. -/
theorem window_contains_now_iff {zone : Zone} (hspaced : zone.table.IsSpaced)
    (hskips : zone.table.SkipsFromMidnight) :
    (∀ (d : Date) (start : Instant), zone.table.dayStart? d = some start →
      IsLeast {t : Instant | d.midnight ≤ zone.table.localAt t.second} start) ∧
    (∀ (period : Period) (now : Instant) (first : Date) (window : Window),
      period.StartsOn (zone.table.dateAt now) first → zone.window? period now = some window →
      let closing := (first.addDays period.days).midnight
      window.start ≤ now ∧
        (window.contains now ↔ ¬∃ t ≤ now, closing ≤ zone.table.localAt t.second) ∧
        (¬window.contains now ↔ ∃ shift ∈ zone.table.shifts,
          shift.moment ≤ now.second ∧ shift.TurnsBackOver closing)) ∧
    (∀ d : Date, (d.addDays (-1)).inCalendar → (d.addDays 1).inCalendar →
      ∃ start, zone.table.dayStart? d = some start) ∧
    ∀ (period : Period) (now : Instant) (first : Date),
      period.StartsOn (zone.table.dateAt now) first → (first.addDays (-1)).inCalendar →
      (first.addDays (period.days + 1)).inCalendar →
      ∃ window, zone.window? period now = some window := by
  have hleast : ∀ (d : Date) (start : Instant), zone.table.dayStart? d = some start →
      IsLeast {t : Instant | d.midnight ≤ zone.table.localAt t.second} start :=
    fun d start => hspaced.isLeast_of_dayStart? (hskips.not_straddles d)
  refine ⟨hleast, ?_, fun d => hspaced.exists_dayStart?_of_inside, ?_⟩
  · -- The window runs from the start of one day to that of another.
    intro period now first window hfirst hwindow closing
    have hspan := OffsetTable.span?_of_windowIn? hwindow
    rw [hfirst.firstDate_eq] at hspan
    obtain ⟨-, hstart, hstop⟩ := OffsetTable.span?_eq_some_iff.1 hspan
    -- The clock is past the first midnight and short of the closing one.
    obtain ⟨hpast, hshort⟩ := hfirst.mem_days
    have hnow : first.midnight ≤ zone.table.localAt now.second ∧
        zone.table.localAt now.second < closing := by
      simp only [OffsetTable.dateAt] at hpast hshort
      simp only [closing, Date.midnight, Date.day_addDays]
      omega
    have hafter : window.start ≤ now := (hleast first window.start hstart).2 hnow.1
    have hcontains : window.contains now ↔
        ¬∃ t ≤ now, closing ≤ zone.table.localAt t.second := by
      obtain ⟨hreaches, hearliest⟩ := hleast _ window.stop hstop
      rw [Window.contains_iff]
      constructor
      · -- An instant at which the clock has come to the closing midnight is at or behind the stop.
        rintro ⟨-, hbefore⟩ ⟨t, ht, hcome⟩
        have hstop_le : window.stop ≤ t := hearliest hcome
        simp only [Instant.le_def, Instant.lt_def] at *
        omega
      · -- If `now` were behind the stop, the stop would be an instant that forbids it.
        intro hnever
        refine ⟨hafter, ?_⟩
        by_contra hbehind
        refine hnever ⟨window.stop, ?_, hreaches⟩
        simp only [Instant.le_def, Instant.lt_def] at *
        omega
    refine ⟨hafter, hcontains, ?_⟩
    rw [hcontains, not_not]
    constructor
    · -- The clock has been past the closing midnight and is short of it now.
      rintro ⟨t, ht, hcome⟩
      have hnano := now.nano_lt
      simp only [Instant.le_def, Instant.key] at ht
      exact hspaced.exists_turn (by omega) hcome hnow.2
    · rintro ⟨shift, hshift, hmoment, hturn⟩
      -- Just before the clock was turned back it had come to the closing midnight.
      have hcome := hspaced.le_localAt_of_turnsBackOver hshift hturn
      have hearliest := (hspaced.isLeast_dayStart (hskips.not_straddles _)).2 hcome
      obtain ⟨hsecond, hnano⟩ := OffsetTable.second_of_dayStart? hstop
      refine ⟨window.stop, ?_, (hleast _ window.stop hstop).1⟩
      rw [Instant.le_def, Instant.key, Instant.key]
      omega
  · -- The date of `now` lies between the two midnights, so it is in the calendar with them.
    intro period now first hfirst hbefore hbehind
    have hdays : 0 ≤ period.days := by cases period <;> decide
    have htoday : (zone.table.dateAt now).inCalendar := by
      obtain ⟨hlow, hhigh⟩ := hfirst.mem_days
      apply Date.inCalendar_of_between hbefore hbehind <;> simp only [Date.day_addDays] <;> omega
    rw [Zone.window?, OffsetTable.windowIn?_eq_span? htoday, hfirst.firstDate_eq]
    exact Option.isSome_iff_exists.1 (hspaced.isSome_span? hdays hbefore hbehind)

namespace Sample

/-- Newfoundland, where the clock was turned back a minute after midnight. -/
def newfoundland : Zone := .named "America/St_Johns" Place.stJohns

/-- A quarter of an hour past 11 in the evening of 29 October 2005, for the second time. -/
def secondEvening : Instant := ⟨1130640300, 0, Instant.zero_nano_lt, by decide⟩

/-- That day, up to its first midnight. -/
def turnedDay : Window :=
  ⟨⟨1130553000, 0, Instant.zero_nano_lt, by decide⟩,
    ⟨1130639400, 0, Instant.zero_nano_lt, by decide⟩⟩

end Sample

/-- In Newfoundland the second of two late evenings lies behind its own window. -/
theorem window_contains_now_iff_second_evening :
    (Sample.newfoundland.table.IsSpaced ∧ Sample.newfoundland.table.SkipsFromMidnight) ∧
      Sample.newfoundland.window? .daily Sample.secondEvening = some Sample.turnedDay ∧
      Sample.turnedDay.start ≤ Sample.secondEvening ∧
      ¬Sample.turnedDay.contains Sample.secondEvening := by
  have hname : Zone.ofName? "America/St_Johns" = some Sample.newfoundland := by decide +kernel
  have hspaced : Sample.newfoundland.table.IsSpaced :=
    (Zone.isRegular_of_ofName? hname).table.isSpaced
  have hskips := Zone.skipsFromMidnight_of_ofName? hname (by decide)
  have hfirst : Period.daily.StartsOn
      (Sample.newfoundland.table.dateAt Sample.secondEvening) ⟨13085⟩ := by
    show (⟨13085⟩ : Date) = Sample.newfoundland.table.dateAt Sample.secondEvening
    decide +kernel
  have hwindow :
      Sample.newfoundland.window? .daily Sample.secondEvening = some Sample.turnedDay := by
    decide +kernel
  obtain ⟨-, hown, -⟩ := window_contains_now_iff hspaced hskips
  obtain ⟨hstart, -, hturn⟩ := hown .daily _ _ _ hfirst hwindow
  refine ⟨⟨hspaced, hskips⟩, hwindow, hstart, hturn.2 ⟨⟨1130639460, -9000, -12600⟩, ?_⟩⟩
  decide +kernel

end Standings
