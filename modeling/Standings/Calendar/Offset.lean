import Standings.Calendar.Instant
import Standings.Text.Blank
import Standings.Text.Decimal

/-! # Offsets from UTC

A fixed offset is less than a day to either side of UTC. A table of offsets describes a place
whose clocks are changed: the offset it starts with and the later ones with the second from which
each is in force. `OffsetTable.localAt` reads the local clock, and `OffsetTable.readings` finds
the seconds at which the local clock reads a given time: none if the clock skips it, several if
the clock is turned back over it. -/

namespace Standings

namespace Calendar

/-- A fixed offset, in seconds east of UTC. -/
structure Offset where
  /-- Seconds to add to UTC. -/
  seconds : Int
  /-- An offset is less than a day. -/
  lt_day : -86400 < seconds ∧ seconds < 86400 := by decide
  deriving DecidableEq, Repr

namespace Offset

/-- No offset. -/
def utc : Offset := ⟨0, by decide⟩

/-- The offset of so many seconds, if it is less than a day. -/
def ofSeconds? (seconds : Int) : Option Offset :=
  if h : -86400 < seconds ∧ seconds < 86400 then some ⟨seconds, h⟩ else none

/-- The text of an offset: a sign, hours and minutes, and seconds if there are any. -/
def write (o : Offset) : String :=
  let n := o.seconds.natAbs
  let clock := (if o.seconds < 0 then "-" else "+") ++ Decimal.padded 2 (n / 3600) ++ ":"
    ++ Decimal.padded 2 (n / 60 % 60)
  if n % 60 = 0 then clock else clock ++ ":" ++ Decimal.padded 2 (n % 60)

/-- Reads two digits, the first of them at most `most`. -/
def twoDigits? (most : Nat) : List Char → Option (Nat × List Char)
  | a :: b :: rest => do
    let tens ← Decimal.digit? a
    let ones ← Decimal.digit? b
    if tens ≤ most then some (10 * tens + ones, rest) else none
  | _ => none

/-- The sign an offset starts with: a hyphen and the typographic minus both mean west. -/
def sign? (c : Char) : Option Int :=
  if c = '+' then some 1
  else if c = '-' ∨ c = '−' then some (-1)
  else none

/-- Reads an offset: a sign, two digits of hours, colons and blanks if there are any, and two
digits of minutes. What follows the minutes is not looked at. -/
def parse? (text : List Char) : Option Offset :=
  match text with
  | [] => none
  | c :: rest => do
    let sign ← sign? c
    let (hours, rest) ← twoDigits? 9 rest
    let rest := rest.dropWhile fun c => c = ':' || Text.isBlank c
    -- Tens of minutes are at most five; hours are held against a day below.
    let (minutes, _) ← twoDigits? 5 rest
    ofSeconds? (sign * (hours * 3600 + minutes * 60))

end Offset

/-- The offsets of a place over time. -/
structure OffsetTable where
  /-- The offset before the first change. -/
  initial : Int
  /-- The second of each change with the offset in force from then on, earliest first. -/
  changes : List (Int × Int) := []
  deriving DecidableEq, Repr

namespace OffsetTable

/-- The offset at a second, given the offset in force before a list of changes. -/
def offsetFrom (offset : Int) : List (Int × Int) → Int → Int
  | [], _ => offset
  | (moment, next) :: later, t => if t < moment then offset else offsetFrom next later t

/-- The offset in force at a second. -/
def offsetAt (table : OffsetTable) (t : Int) : Int :=
  offsetFrom table.initial table.changes t

/-- What the local clock reads at a second, in seconds. -/
def localAt (table : OffsetTable) (t : Int) : Int :=
  t + table.offsetAt t

/-- All offsets of the place, in order of time. -/
def offsets (table : OffsetTable) : List Int :=
  table.initial :: table.changes.map Prod.snd

/-- The seconds at which the local clock reads `reading`. -/
def readings (table : OffsetTable) (reading : Int) : List Int :=
  (table.offsets.map (reading - ·)).filter (table.localAt · = reading)

/-- The earliest second at which the local clock reads `reading`. -/
def earliest? (table : OffsetTable) (reading : Int) : Option Int :=
  (table.readings reading).min?

/-- A second is among the readings exactly if the clock reads the time then. -/
theorem mem_readings {table : OffsetTable} {reading t : Int} :
    t ∈ table.readings reading ↔ table.localAt t = reading := by
  -- The offset in force is one of the table's, so trying them all misses no reading.
  have offset_mem : ∀ (changes : List (Int × Int)) (offset : Int),
      offsetFrom offset changes t ∈ offset :: changes.map Prod.snd := by
    intro changes
    induction changes with
    | nil => simp [offsetFrom]
    | cons c changes ih =>
      intro offset
      simp only [offsetFrom]
      split
      · simp
      · exact List.mem_cons_of_mem _ (ih c.2)
  simp only [readings, List.mem_filter, List.mem_map, decide_eq_true_eq]
  constructor
  · exact fun h => h.2
  · intro h
    refine ⟨⟨table.offsetAt t, offset_mem _ _, ?_⟩, h⟩
    simp only [localAt] at h
    omega

end OffsetTable

/-- The table of a place whose clocks are never changed. -/
def Offset.table (o : Offset) : OffsetTable := ⟨o.seconds, []⟩

end Calendar

end Standings
