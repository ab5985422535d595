import Mathlib.Data.List.MinMax
import Standings.Proofs.Shift
import Standings.Window

/-!
# Where days start

In a spaced table of offsets the clock is shifted at most once around a midnight, so there are few
ways in which it can go past that midnight: it reads it once, it is turned back and reads it again,
or it skips it. `dayStart_eq` finds the start of the day in all of them.

A table is regular if it is spaced and no change moves its clock by more than a day. Two facts about
the start of a day are then enough to compare days, even if the clock skips a whole one: at its
start the local clock reads midnight or later, and before its start it never reads the next
midnight.

## Key results

- `OffsetTable.ShiftsOnce.dayStart_eq`: the start of a day, from the shift around its midnight
- `OffsetTable.IsRegular.dayStart_le_dayStart`: later days do not start earlier
- `OffsetTable.IsSpaced.dayStart_bounds`: a day starts less than a day from its midnight in UTC
- `Zone.isRegular_of_ofName?`: the places that the library knows are regular
-/

namespace Standings.Calendar

namespace OffsetTable

/-! ## Regular tables -/

/-- What is expected of a table of offsets. -/
structure IsRegular (table : OffsetTable) : Prop where
  /-- An offset is less than a day. -/
  offset_lt_day : ∀ offset ∈ table.offsets, -86400 < offset ∧ offset < 86400
  /-- Two days lie between changes. -/
  changes_apart : table.changes.IsChain fun change next => change.1 + 172800 ≤ next.1
  /-- A change moves the clock by a day at most. -/
  jump_le_day : table.offsets.IsChain fun offset next =>
    next - offset ≤ 86400 ∧ offset - next ≤ 86400

instance (table : OffsetTable) : Decidable table.IsRegular :=
  decidable_of_iff
    ((∀ offset ∈ table.offsets, -86400 < offset ∧ offset < 86400) ∧
      (table.changes.IsChain fun change next => change.1 + 172800 ≤ next.1) ∧
      table.offsets.IsChain fun offset next => next - offset ≤ 86400 ∧ offset - next ≤ 86400)
    ⟨fun h => ⟨h.1, h.2.1, h.2.2⟩, fun h => ⟨h.1, h.2, h.3⟩⟩

theorem isRegular_fixed (offset : Offset) : offset.table.IsRegular where
  offset_lt_day := by simpa [offsets, Offset.table] using offset.lt_day
  changes_apart := .nil
  jump_le_day := .singleton _

namespace IsRegular

/-- A regular table is spaced. -/
theorem isSpaced {table : OffsetTable} (h : table.IsRegular) : table.IsSpaced :=
  ⟨h.offset_lt_day, h.changes_apart⟩

/-- A regular table is regular from its first change on. -/
theorem tail {offset moment next : Int} {later : List (Int × Int)}
    (h : IsRegular ⟨offset, (moment, next) :: later⟩) : IsRegular ⟨next, later⟩ where
  offset_lt_day := h.isSpaced.tail.offset_lt_day
  changes_apart := h.isSpaced.tail.changes_apart
  jump_le_day := h.jump_le_day.tail

/-- A shift moves the clock by a day at most. -/
theorem jump_of_mem_shifts {table : OffsetTable} (h : table.IsRegular) {shift : Shift}
    (hshift : shift ∈ table.shifts) :
    shift.after - shift.before ≤ 86400 ∧ shift.before - shift.after ≤ 86400 := by
  -- The shift is the first one, or one behind it.
  obtain ⟨initial, changes⟩ := table
  induction changes generalizing initial with
  | nil => cases hshift
  | cons change later ih =>
    obtain _ | ⟨_, hlater⟩ := hshift
    · exact (List.isChain_cons_cons.1 h.jump_le_day).1
    · exact ih _ h.tail hlater

end IsRegular

/-- The one shift around a reading moves the clock by a day at most. -/
theorem ShiftsOnce.jump_le_day {table : OffsetTable} {reading : Int} {shift : Shift}
    (h : table.ShiftsOnce reading shift) (hregular : table.IsRegular) :
    shift.after - shift.before ≤ 86400 ∧ shift.before - shift.after ≤ 86400 := by
  -- A shift that changes nothing need not be one of the table's.
  by_cases hsame : shift.before = shift.after
  · omega
  · exact hregular.jump_of_mem_shifts (h.mem_shifts hsame)

/-! ## Starts of days -/

section Start

variable {table : OffsetTable} {d : Date} {shift : Shift}

/-- The start of a day is the earliest reading of midnight if there is one. -/
theorem dayStart_of_earliest {t : Int} (hreading : table.localAt t = d.midnight)
    (hearliest : ∀ t', table.localAt t' = d.midnight → t ≤ t') : table.dayStart d = t := by
  -- The readings of midnight are listed, and this is the least of them.
  have hmin : (table.readings d.midnight).min? = some t := by
    refine List.min?_eq_some_iff.2 ⟨mem_readings.2 hreading, ?_⟩
    intro t' ht'
    exact hearliest t' (mem_readings.1 ht')
  rw [dayStart, earliest?, hmin, Option.getD_some]

/-- A midnight that the clock skips has no reading. -/
theorem earliest?_of_skipped (hskipped : ∀ t, table.localAt t ≠ d.midnight) :
    table.earliest? d.midnight = none := by
  -- Any reading in the list would be one of midnight.
  have hnone : table.readings d.midnight = [] :=
    List.eq_nil_iff_forall_not_mem.2 fun t ht => hskipped t (mem_readings.1 ht)
  rw [earliest?, hnone, List.min?_nil]

namespace ShiftsOnce

/-- The clock reads midnight with the offset before the shift until then, or with the one after. -/
theorem of_localAt_eq (h : table.ShiftsOnce d.midnight shift) (hspaced : table.IsSpaced) {t : Int}
    (ht : table.localAt t = d.midnight) :
    t < shift.moment ∧ t = d.midnight - shift.before ∨
      shift.moment ≤ t ∧ t = d.midnight - shift.after := by
  -- Whoever reads midnight is near it, where there is but one shift.
  obtain ⟨hlow, hhigh⟩ := hspaced.reading_bounds ht
  rw [h.localAt_eq (by omega) hhigh] at ht
  split at ht <;> omega

/-- The clock does not read what a shift skips. -/
theorem localAt_ne_of_skips (h : table.ShiftsOnce d.midnight shift) (hspaced : table.IsSpaced)
    (hskips : shift.Skips d.midnight) (t : Int) : table.localAt t ≠ d.midnight := by
  intro ht
  have hdue := shift.due_def
  have hreached := shift.reached_def
  obtain ⟨hlow, hhigh⟩ := hskips
  -- Before the shift the clock is not due there yet, and from then on it is past it.
  rcases h.of_localAt_eq hspaced ht with ht | ht <;> omega

/-- A day starts at its midnight with the offset before the shift, unless the clock comes to
midnight only after the shift. -/
theorem dayStart_eq (h : table.ShiftsOnce d.midnight shift) (hspaced : table.IsSpaced) :
    table.dayStart d =
      if d.midnight < shift.due ∨ d.midnight < shift.reached then d.midnight - shift.before
      else d.midnight - shift.after := by
  -- The shift compares with midnight in three ways: by what was due, and by what is reached.
  have hbefore := h.before_lt_day
  have hafter := h.after_lt_day
  have hdue := shift.due_def
  have hreached := shift.reached_def
  by_cases hread : d.midnight < shift.due
  · -- Midnight is read before the shift, and perhaps again after it.
    rw [if_pos (.inl hread)]
    apply dayStart_of_earliest
    · rw [h.localAt_eq (by omega) (by omega), if_pos (by omega)]
      omega
    · intro t ht
      rcases h.of_localAt_eq hspaced ht with ht | ht <;> omega
  · by_cases hpassed : d.midnight < shift.reached
    · -- The shift skips midnight, so midnight is read with the offset of the day before.
      have hskipped := h.localAt_ne_of_skips hspaced ⟨Int.not_lt.1 hread, hpassed⟩
      rw [if_pos (.inr hpassed), dayStart, earliest?_of_skipped hskipped, Option.getD_none,
        h.offsetAt_eq _ (by omega) (by omega), if_pos (by omega)]
    · -- Midnight is read after the shift alone.
      rw [if_neg (by omega)]
      apply dayStart_of_earliest
      · rw [h.localAt_eq (by omega) (by omega), if_neg (by omega)]
        omega
      · intro t ht
        rcases h.of_localAt_eq hspaced ht with ht | ht <;> omega

end ShiftsOnce

/-- A day starts less than a day from its midnight in UTC. -/
theorem IsSpaced.dayStart_bounds (h : table.IsSpaced) (d : Date) :
    d.midnight - 86400 < table.dayStart d ∧ table.dayStart d < d.midnight + 86400 := by
  obtain ⟨shift, hshift⟩ := h.exists_shift d.midnight
  have hbefore := hshift.before_lt_day
  have hafter := hshift.after_lt_day
  -- In either case the start is midnight less one of the two offsets.
  rw [hshift.dayStart_eq h]
  split <;> omega

/-- At the start of a day the clock reads its midnight or later. -/
theorem IsSpaced.midnight_le_localAt_dayStart (h : table.IsSpaced) (d : Date) :
    d.midnight ≤ table.localAt (table.dayStart d) := by
  obtain ⟨shift, hshift⟩ := h.exists_shift d.midnight
  obtain ⟨hlow, hhigh⟩ := h.dayStart_bounds d
  have hdue := shift.due_def
  have hreached := shift.reached_def
  rw [hshift.localAt_eq (by omega) hhigh, hshift.dayStart_eq h]
  -- With the offset before it the day may start after the shift only if that skips midnight.
  split <;> split <;> omega

/-- Before the start of a day the clock does not reach the next midnight. -/
theorem IsRegular.localAt_lt_of_lt_dayStart (h : table.IsRegular) {t : Int}
    (ht : t < table.dayStart d) : table.localAt t < d.midnight + 86400 := by
  obtain ⟨shift, hshift⟩ := h.isSpaced.exists_shift d.midnight
  -- How far a single shift can move the clock on.
  have hjump := hshift.jump_le_day h
  have hoffset := h.isSpaced.offsetAt_lt_day t
  have hhigh := (h.isSpaced.dayStart_bounds d).2
  by_cases hlow : t < d.midnight - 86400
  · -- No offset makes up for more than a day.
    rw [localAt]
    omega
  · rw [hshift.localAt_eq (by omega) (by omega)]
    rw [hshift.dayStart_eq h.isSpaced] at ht
    have hdue := shift.due_def
    have hreached := shift.reached_def
    -- The clock is before midnight, or the shift has moved it on, by a day at most.
    split at ht <;> split <;> omega

/-- Later days do not start earlier, whatever the clock skips or repeats. -/
theorem IsRegular.dayStart_le_dayStart (h : table.IsRegular) {d d' : Date} (hd : d.day ≤ d'.day) :
    table.dayStart d ≤ table.dayStart d' := by
  obtain heq | hlt := hd.eq_or_lt
  · obtain rfl : d = d' := congrArg Date.mk heq
    exact le_rfl
  · -- Before the earlier day the clock has not come to the midnight of the later one.
    by_contra hbefore
    have hearly := h.localAt_lt_of_lt_dayStart (Int.not_le.1 hbefore)
    have hmidnight := h.isSpaced.midnight_le_localAt_dayStart d'
    simp only [Date.midnight] at hearly hmidnight
    omega

end Start

end OffsetTable

/-- A zone is regular if its clocks are kept by a regular table. With a fixed offset they are. -/
def Zone.IsRegular : Zone → Prop
  | .hostLocal => True
  | .fixed _ => True
  | .named _ table => table.IsRegular

/-- The clocks of a regular zone. -/
theorem Zone.IsRegular.table {zone : Zone} (h : zone.IsRegular) : zone.table.IsRegular := by
  cases zone with
  | hostLocal => exact OffsetTable.isRegular_fixed Offset.utc
  | fixed offset => exact OffsetTable.isRegular_fixed offset
  | named name table => exact h

/-- All places that the library knows have regular clocks, also those whose clocks have been moved
by a whole day. -/
theorem Place.isRegular_of_mem_all : ∀ place ∈ Place.all, place.2.IsRegular := by decide +kernel

/-- The zone of a name has the table of a place. -/
theorem Zone.exists_mem_all_of_ofName? {name : String} {zone : Zone}
    (h : ofName? name = some zone) :
    ∃ table, zone = .named name table ∧ (name, table) ∈ Place.all := by
  rw [ofName?, Option.map_eq_some_iff] at h
  obtain ⟨table, htable, rfl⟩ := h
  obtain ⟨before, after, heq, -⟩ := List.lookup_eq_some_iff.1 htable
  -- The name was found in the list of places.
  refine ⟨table, rfl, ?_⟩
  rw [heq]
  exact List.mem_append_right _ (List.mem_cons_self ..)

/-- So the zone of a place is regular. -/
theorem Zone.isRegular_of_ofName? {name : String} {zone : Zone} (h : ofName? name = some zone) :
    zone.IsRegular := by
  obtain ⟨table, rfl, hmem⟩ := exists_mem_all_of_ofName? h
  exact Place.isRegular_of_mem_all _ hmem

end Standings.Calendar
