import Mathlib.Order.Bounds.Basic
import Standings.Proofs.Week

/-!
# When a clock comes to midnight

A local clock has come to the midnight of a date when it reads that midnight or later. In a spaced
table there is a first second at which it has. That second is the start of the day, unless a shift
skips the midnight: then it is the moment of the shift, and the start of the day comes after it by
as much as the clock was short of midnight.

## Key results

- `OffsetTable.IsSpaced.isLeast_dayStart`: a day starts when the clock comes to its midnight
- `OffsetTable.IsSpaced.isLeast_moment`, `OffsetTable.IsSpaced.dayStart_of_skips`: if it is skipped
- `OffsetTable.IsSpaced.exists_turn`: a clock that is before a midnight again was turned back
-/

namespace Standings.Calendar

/-- Of the instants in some seconds the first is at the first of these seconds. -/
theorem Instant.isLeast_of_second {seconds : Int → Prop} {t : Instant}
    (h : IsLeast {second | seconds second} t.second) (hnano : t.nano = 0) :
    IsLeast {t' : Instant | seconds t'.second} t := by
  refine ⟨h.1, fun t' ht' => ?_⟩
  -- An instant without nanoseconds is the first of its second.
  have hle : t.second ≤ t'.second := h.2 ht'
  rw [Instant.le_def, Instant.key, Instant.key]
  omega

namespace OffsetTable

variable {table : OffsetTable} {d : Date} {shift : Shift}

/-- The clock comes to a midnight at the start of the day, or with the shift that skips it. -/
theorem ShiftsOnce.isLeast_midnight (h : table.ShiftsOnce d.midnight shift)
    (hspaced : table.IsSpaced) :
    IsLeast {t | d.midnight ≤ table.localAt t}
      (if shift.Skips d.midnight then shift.moment else table.dayStart d) := by
  have hbefore := h.before_lt_day
  have hafter := h.after_lt_day
  have hdue := shift.due_def
  have hreached := shift.reached_def
  -- With any offset the clock is short of midnight a day before it, and past it a day after.
  have hlow : ∀ t, d.midnight ≤ table.localAt t → d.midnight - 86400 < t := fun t ht => by
    have := (hspaced.reading_bounds (t := t) rfl).1
    omega
  have hlocal : ∀ t, d.midnight - 86400 < t → t < d.midnight + 86400 →
      table.localAt t = t + if t < shift.moment then shift.before else shift.after :=
    fun t ht ht' => h.localAt_eq (by omega) ht'
  split
  · next hskips =>
    -- At the moment of the shift the clock is past midnight, and before it short of it.
    obtain ⟨hshort, hpast⟩ := hskips
    constructor
    · show d.midnight ≤ table.localAt shift.moment
      rw [hlocal _ (by omega) (by omega), if_neg (by omega)]
      omega
    · intro t (ht : d.midnight ≤ table.localAt t)
      by_contra hearly
      rw [hlocal t (hlow t ht) (by omega), if_pos (by omega)] at ht
      omega
  · next hread =>
    -- At the start of the day the clock has come to midnight.
    obtain ⟨-, hstart⟩ := hspaced.dayStart_bounds d
    refine ⟨hspaced.midnight_le_localAt_dayStart d, ?_⟩
    intro t (ht : d.midnight ≤ table.localAt t)
    by_contra hearly
    rw [hlocal t (hlow t ht) (by omega)] at ht
    rw [h.dayStart_eq hspaced] at hearly
    simp only [Shift.Skips] at hread
    -- Before the start of the day neither offset brings the clock to midnight.
    split at ht <;> split at hearly <;> omega

namespace IsSpaced

/-- A shift that skips a midnight is the one around it. -/
theorem shiftsOnce_of_skips (h : table.IsSpaced) (hshift : shift ∈ table.shifts)
    (hskips : shift.Skips d.midnight) : table.ShiftsOnce d.midnight shift := by
  obtain ⟨hbefore, hafter⟩ := h.lt_day_of_mem_shifts hshift
  have hdue := shift.due_def
  have hreached := shift.reached_def
  obtain ⟨hshort, hpast⟩ := hskips
  exact h.shiftsOnce_of_mem hshift (by omega) (by omega)

/-- The clock comes to a skipped midnight with the shift that skips it. -/
theorem isLeast_moment (h : table.IsSpaced) (hshift : shift ∈ table.shifts)
    (hskips : shift.Skips d.midnight) :
    IsLeast {t | d.midnight ≤ table.localAt t} shift.moment := by
  -- It is the one shift around its midnight.
  have hleast := (h.shiftsOnce_of_skips hshift hskips).isLeast_midnight h
  rwa [if_pos hskips] at hleast

/-- After a skipped midnight the day starts later than the shift, by as much as the clock was short
of midnight. -/
theorem dayStart_of_skips (h : table.IsSpaced) (hshift : shift ∈ table.shifts)
    (hskips : shift.Skips d.midnight) :
    table.dayStart d = shift.moment + (d.midnight - shift.due) := by
  rw [(h.shiftsOnce_of_skips hshift hskips).dayStart_eq h, if_pos (.inr hskips.2), shift.due_def]
  omega

/-- A day starts when the clock comes to its midnight, if no shift skips midnight together with
readings before it. -/
theorem isLeast_dayStart (h : table.IsSpaced)
    (hwhole : ∀ shift ∈ table.shifts, ¬shift.Straddles d.midnight) :
    IsLeast {t | d.midnight ≤ table.localAt t} (table.dayStart d) := by
  obtain ⟨shift, hshift⟩ := h.exists_shift d.midnight
  have hleast := hshift.isLeast_midnight h
  split at hleast
  · next hskips =>
    -- The clock is due to read just midnight as it is shifted on.
    obtain ⟨hshort, hpast⟩ := hskips
    have hdue := shift.due_def
    have hreached := shift.reached_def
    have hmem : shift ∈ table.shifts := hshift.mem_shifts (by omega)
    have hexact : shift.due = d.midnight := by
      by_contra hne
      exact hwhole shift hmem ⟨by omega, hpast⟩
    rwa [h.dayStart_of_skips hmem ⟨hshort, hpast⟩, hexact, Int.sub_self, Int.add_zero]
  · exact hleast

/-- From a shift on the clock never reads less than at its moment. -/
theorem reached_le_localAt (h : table.IsSpaced) (hshift : shift ∈ table.shifts) {t : Int}
    (ht : shift.moment ≤ t) : shift.reached ≤ table.localAt t := by
  have hreached := shift.reached_def
  obtain ⟨-, -, hafter⟩ := h.lt_day_of_mem_shifts hshift
  rw [localAt]
  by_cases hnear : t < shift.moment + 172800
  · -- For two days the clock just goes on with the new offset.
    rw [h.offsetAt_of_mem_shifts hshift (by omega) hnear, if_neg (by omega)]
    omega
  · -- By the time of the next shift no offset leads back.
    have hoffset := h.offsetAt_lt_day t
    omega

/-- Just before a shift the clock has come to all that the shift turns it back over. -/
theorem le_localAt_of_turnsBackOver (h : table.IsSpaced) (hshift : shift ∈ table.shifts)
    {reading : Int} (hturn : shift.TurnsBackOver reading) :
    reading ≤ table.localAt (shift.moment - 1) := by
  -- The second before the shift still has the offset before it.
  have hbefore := h.offsetAt_of_mem_shifts hshift (t := shift.moment - 1) (by omega) (by omega)
  have hdue := shift.due_def
  rw [if_pos (by omega)] at hbefore
  obtain ⟨-, hpast⟩ := hturn
  rw [localAt]
  omega

/-- A clock that has come to a reading and is before it again has been turned back over it. -/
theorem exists_turn (h : table.IsSpaced) {reading t now : Int} (hle : t ≤ now)
    (ht : reading ≤ table.localAt t) (hnow : table.localAt now < reading) :
    ∃ shift ∈ table.shifts, shift.moment ≤ now ∧ shift.TurnsBackOver reading := by
  obtain ⟨shift, hshift⟩ := h.exists_shift reading
  have hdue := shift.due_def
  have hreached := shift.reached_def
  -- Both seconds are less than a day from the reading.
  have hlow : reading - 86400 < t := by
    have := (h.reading_bounds (t := t) rfl).1
    omega
  have hhigh : now < reading + 86400 := by
    have := (h.reading_bounds (t := now) rfl).2
    omega
  rw [hshift.localAt_eq (by omega) (by omega)] at ht hnow
  -- With one offset the clock would have gone on, so the shift lies between them.
  have hbetween : t < shift.moment ∧ shift.moment ≤ now := by
    split at ht <;> split at hnow <;> omega
  rw [if_pos hbetween.1] at ht
  rw [if_neg (by omega)] at hnow
  -- The two readings lie to either side of what is turned back over.
  exact ⟨shift, hshift.mem_shifts (by omega), hbetween.2, by omega, by omega⟩

end IsSpaced

end OffsetTable

end Standings.Calendar
