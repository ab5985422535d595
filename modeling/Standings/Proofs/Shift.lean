import Mathlib.Data.List.Chain
import Standings.Calendar.Zone

/-!
# Shifts of a clock

A table of offsets shifts its clock at each change: from what the clock is due to read to what it
reads instead. A shift forward skips the readings in between, a shift back repeats them.

A table is spaced if its offsets are less than a day and two days lie between its changes. Around a
reading it then shifts its clock only once, so what happens at a midnight is said by one shift.

## Key results

- `OffsetTable.IsSpaced.offsetAt_of_mem_shifts`: the offsets around a shift
- `OffsetTable.IsSpaced.exists_shift`: the one shift around a reading
-/

namespace Standings.Calendar

/-! ## Shifts -/

/-- A change of the offset of a local clock. -/
structure Shift where
  /-- The second from which the new offset is in force. -/
  moment : Int
  /-- The offset before the change. -/
  before : Int
  /-- The offset after the change. -/
  after : Int
  deriving DecidableEq, Repr

namespace Shift

/-- What the clock would read at the moment of the shift without it. -/
def due (shift : Shift) : Int := shift.moment + shift.before

/-- What the clock reads at the moment of the shift. -/
def reached (shift : Shift) : Int := shift.moment + shift.after

theorem due_def (shift : Shift) : shift.due = shift.moment + shift.before := rfl

theorem reached_def (shift : Shift) : shift.reached = shift.moment + shift.after := rfl

/-- The clock goes past a reading without coming to it. -/
def Skips (shift : Shift) (reading : Int) : Prop :=
  shift.due ≤ reading ∧ reading < shift.reached

/-- The clock skips a reading and others before it. -/
def Straddles (shift : Shift) (reading : Int) : Prop :=
  shift.due < reading ∧ reading < shift.reached

/-- The clock has gone past a reading and is turned back to before it. -/
def TurnsBackOver (shift : Shift) (reading : Int) : Prop :=
  shift.reached < reading ∧ reading < shift.due

instance (shift : Shift) (reading : Int) : Decidable (shift.Skips reading) :=
  inferInstanceAs (Decidable (_ ∧ _))

instance (shift : Shift) (reading : Int) : Decidable (shift.Straddles reading) :=
  inferInstanceAs (Decidable (_ ∧ _))

instance (shift : Shift) (reading : Int) : Decidable (shift.TurnsBackOver reading) :=
  inferInstanceAs (Decidable (_ ∧ _))

end Shift

namespace OffsetTable

/-- The shifts of a list of changes, given the offset before them. -/
def shiftsFrom (offset : Int) : List (Int × Int) → List Shift
  | [] => []
  | (moment, next) :: later => ⟨moment, offset, next⟩ :: shiftsFrom next later

/-- The shifts of a clock, earliest first. -/
def shifts (table : OffsetTable) : List Shift :=
  shiftsFrom table.initial table.changes

/-- The offset in force stays the same until the first change. -/
theorem offsetFrom_of_lt {offset t : Int} {changes : List (Int × Int)}
    (h : ∀ change ∈ changes.head?, t < change.1) : offsetFrom offset changes t = offset := by
  cases changes with
  | nil => rfl
  -- The first change decides, and it is still to come.
  | cons change later => exact if_pos (h change rfl)

/-! ## Spaced tables -/

/-- What the readings around a time rest on. -/
structure IsSpaced (table : OffsetTable) : Prop where
  /-- An offset is less than a day. -/
  offset_lt_day : ∀ offset ∈ table.offsets, -86400 < offset ∧ offset < 86400
  /-- Two days lie between changes. -/
  changes_apart : table.changes.IsChain fun change next => change.1 + 172800 ≤ next.1

instance (table : OffsetTable) : Decidable table.IsSpaced :=
  decidable_of_iff
    ((∀ offset ∈ table.offsets, -86400 < offset ∧ offset < 86400) ∧
      table.changes.IsChain fun change next => change.1 + 172800 ≤ next.1)
    ⟨fun h => ⟨h.1, h.2⟩, fun h => ⟨h.1, h.2⟩⟩

/-- A shift is the only one in the two days around a reading. -/
structure ShiftsOnce (table : OffsetTable) (reading : Int) (shift : Shift) : Prop where
  /-- The offset before the shift is less than a day. -/
  before_lt_day : -86400 < shift.before ∧ shift.before < 86400
  /-- So is the one after the shift. -/
  after_lt_day : -86400 < shift.after ∧ shift.after < 86400
  /-- The offset is the one before until the shift, and the one after from then on. -/
  offsetAt_eq : ∀ t, reading - 86400 ≤ t → t < reading + 86400 →
    table.offsetAt t = if t < shift.moment then shift.before else shift.after
  /-- The shift is one of the table's, if it is one at all. -/
  mem_shifts : shift.before ≠ shift.after → shift ∈ table.shifts

namespace IsSpaced

/-- A spaced table is spaced from its first change on. -/
theorem tail {offset moment next : Int} {later : List (Int × Int)}
    (h : IsSpaced ⟨offset, (moment, next) :: later⟩) : IsSpaced ⟨next, later⟩ where
  offset_lt_day := fun o ho => h.offset_lt_day o (List.mem_cons_of_mem _ ho)
  changes_apart := h.changes_apart.tail

/-- The offset set by the first change is in force for two days. -/
theorem offsetFrom_tail {offset moment next t : Int} {later : List (Int × Int)}
    (h : IsSpaced ⟨offset, (moment, next) :: later⟩) (ht : t < moment + 172800) :
    offsetFrom next later t = next := by
  apply offsetFrom_of_lt
  intro change hchange
  -- The next change, if there is one, comes two days later.
  have hapart := (List.isChain_cons.1 h.changes_apart).1 change hchange
  dsimp only at hapart
  omega

/-- No shift comes earlier than two days after the first change. -/
theorem moment_le_of_mem_tail {offset moment next : Int} {later : List (Int × Int)} {shift : Shift}
    (h : IsSpaced ⟨offset, (moment, next) :: later⟩) (hshift : shift ∈ shiftsFrom next later) :
    moment + 172800 ≤ shift.moment := by
  induction later generalizing offset moment next with
  -- Induction on the changes: each is two days behind the one before.
  | nil => cases hshift
  | cons change later ih =>
    -- From one change to the next.
    have hapart := (List.isChain_cons_cons.1 h.changes_apart).1
    dsimp only at hapart
    obtain _ | ⟨_, hlater⟩ := hshift
    · exact hapart
    · have := ih h.tail hlater
      omega

/-- For two days to either side of a shift the offset is that before it or that after it. -/
theorem offsetAt_of_mem_shifts {table : OffsetTable} (h : table.IsSpaced) {shift : Shift}
    (hshift : shift ∈ table.shifts) {t : Int} (hlow : shift.moment - 172800 ≤ t)
    (hhigh : t < shift.moment + 172800) :
    table.offsetAt t = if t < shift.moment then shift.before else shift.after := by
  obtain ⟨initial, changes⟩ := table
  induction changes generalizing initial with
  | nil => cases hshift
  | cons change later ih =>
    obtain ⟨moment, next⟩ := change
    obtain _ | ⟨_, hlater⟩ := hshift
    · -- The first change, with the next two days free of changes.
      show (if t < moment then initial else offsetFrom next later t) = _
      rw [h.offsetFrom_tail hhigh]
    · -- The first change is over two days before a later shift.
      have hfirst := h.moment_le_of_mem_tail hlater
      rw [← ih next h.tail hlater]
      exact if_neg (by omega)

/-- The offsets of a shift are less than a day. -/
theorem lt_day_of_mem_shifts {table : OffsetTable} (h : table.IsSpaced) {shift : Shift}
    (hshift : shift ∈ table.shifts) :
    (-86400 < shift.before ∧ shift.before < 86400) ∧
      -86400 < shift.after ∧ shift.after < 86400 := by
  obtain ⟨initial, changes⟩ := table
  induction changes generalizing initial with
  | nil => cases hshift
  -- Its offsets are two of the table's, one behind the other.
  | cons change later ih =>
    obtain _ | ⟨_, hlater⟩ := hshift
    · exact ⟨h.offset_lt_day _ (List.mem_cons_self ..),
        h.tail.offset_lt_day _ (List.mem_cons_self ..)⟩
    · exact ih _ h.tail hlater

/-- A shift less than a day from a reading is the only one around it. -/
theorem shiftsOnce_of_mem {table : OffsetTable} (h : table.IsSpaced) {shift : Shift}
    (hshift : shift ∈ table.shifts) {reading : Int} (hlow : reading - 86400 < shift.moment)
    (hhigh : shift.moment < reading + 86400) : table.ShiftsOnce reading shift where
  before_lt_day := (h.lt_day_of_mem_shifts hshift).1
  after_lt_day := (h.lt_day_of_mem_shifts hshift).2
  offsetAt_eq := fun _ _ _ => h.offsetAt_of_mem_shifts hshift (by omega) (by omega)
  mem_shifts := fun _ => hshift

/-- Around every reading a spaced table shifts its clock at most once. -/
theorem exists_shift {table : OffsetTable} (h : table.IsSpaced) (reading : Int) :
    ∃ shift, table.ShiftsOnce reading shift := by
  obtain ⟨initial, changes⟩ := table
  -- Induction on the changes, from the offset that is in force before them.
  induction changes generalizing initial with
  | nil =>
    -- Without changes any shift will do that changes nothing.
    have hinitial := h.offset_lt_day initial (List.mem_cons_self ..)
    refine ⟨⟨reading, initial, initial⟩, hinitial, hinitial, ?_, fun hne => absurd rfl hne⟩
    intro t _ _
    rw [ite_self]
    rfl
  | cons change later ih =>
    obtain ⟨moment, next⟩ := change
    by_cases hpast : moment ≤ reading - 86400
    · -- The change is over; what counts are the changes after it.
      obtain ⟨shift, hshift⟩ := ih next h.tail
      refine ⟨shift, hshift.before_lt_day, hshift.after_lt_day, ?_, ?_⟩
      · intro t hlow hhigh
        rw [← hshift.offsetAt_eq t hlow hhigh]
        exact if_neg (by omega)
      · exact fun hne => List.mem_cons_of_mem _ (hshift.mem_shifts hne)
    · -- The changes after this one are too late.
      refine ⟨⟨moment, initial, next⟩, h.offset_lt_day initial (List.mem_cons_self ..),
        h.tail.offset_lt_day next (List.mem_cons_self ..), ?_, fun _ => List.mem_cons_self ..⟩
      intro t _ hhigh
      show (if t < moment then initial else offsetFrom next later t) = _
      rw [h.offsetFrom_tail (by omega)]

theorem offsetAt_lt_day {table : OffsetTable} (h : table.IsSpaced) (t : Int) :
    -86400 < table.offsetAt t ∧ table.offsetAt t < 86400 := by
  obtain ⟨shift, hshift⟩ := h.exists_shift t
  have hbefore := hshift.before_lt_day
  have hafter := hshift.after_lt_day
  -- It is one of the two offsets around the time.
  rw [hshift.offsetAt_eq t (by omega) (by omega)]
  split <;> assumption

/-- The clock reads a time less than a day from that time in UTC. -/
theorem reading_bounds {table : OffsetTable} (h : table.IsSpaced) {t reading : Int}
    (ht : table.localAt t = reading) : reading - 86400 < t ∧ t < reading + 86400 := by
  have hoffset := h.offsetAt_lt_day t
  -- A reading is the time and an offset, which is less than a day.
  simp only [localAt] at ht
  omega

end IsSpaced

/-- Around a reading with a single shift, the clock goes with one of the two offsets. -/
theorem ShiftsOnce.localAt_eq {table : OffsetTable} {reading : Int} {shift : Shift}
    (h : table.ShiftsOnce reading shift) {t : Int} (hlow : reading - 86400 ≤ t)
    (hhigh : t < reading + 86400) :
    table.localAt t = t + if t < shift.moment then shift.before else shift.after :=
  congrArg (t + ·) (h.offsetAt_eq t hlow hhigh)

end OffsetTable

end Standings.Calendar
