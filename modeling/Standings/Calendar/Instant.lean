import Standings.Calendar.Date

/-! # Instants

An instant is a whole second and nanoseconds within it. A leap second is kept as the second that it
follows with a second's worth of nanoseconds more, so it lies behind every other instant of that
second and before the next. Mostly it follows the last second of a minute. Where clocks are off from
UTC by a part of a minute, the last second of their minute is another one in UTC, so a leap second
may follow any second. -/

namespace Standings

namespace Calendar

/-- The first second of the calendar. -/
def firstSecond : Int := Date.first.day * 86400

/-- The last second of the calendar. -/
def lastSecond : Int := Date.last.day * 86400 + 86399

/-- An instant within the calendar. -/
structure Instant where
  /-- Whole seconds from 1970-01-01T00:00:00Z. -/
  second : Int
  /-- Nanoseconds since that second; from 1000000000 on the instant lies in a leap second. -/
  nano : Nat
  /-- A leap second is one second long. -/
  nano_lt : nano < 2000000000
  /-- The instant lies in the calendar. -/
  inCalendar : firstSecond ≤ second ∧ second ≤ lastSecond
  deriving DecidableEq, Repr

namespace Instant

/-- The bound on nanoseconds at a whole second. -/
theorem zero_nano_lt : 0 < 2000000000 := by decide

/-- The instant `nano` nanoseconds after a second, if there is one. -/
def of? (second : Int) (nano : Nat) : Option Instant :=
  if h : nano < 2000000000 ∧ firstSecond ≤ second ∧ second ≤ lastSecond then
    some ⟨second, nano, h.1, h.2⟩
  else none

/-- The instant at a whole second. -/
def ofSecond? (second : Int) : Option Instant := of? second 0

/-- Place on a line on which every second, with a leap second behind it, has the same length. -/
def key (t : Instant) : Int := t.second * 2000000000 + t.nano

/-- Earlier instants are less. -/
instance : LT Instant := ⟨fun a b => a.key < b.key⟩

/-- An instant is at most any that is not earlier. -/
instance : LE Instant := ⟨fun a b => a.key ≤ b.key⟩

instance (a b : Instant) : Decidable (a < b) := inferInstanceAs (Decidable (a.key < b.key))

instance (a b : Instant) : Decidable (a ≤ b) := inferInstanceAs (Decidable (a.key ≤ b.key))

theorem lt_def {a b : Instant} : a < b ↔ a.key < b.key := Iff.rfl

theorem le_def {a b : Instant} : a ≤ b ↔ a.key ≤ b.key := Iff.rfl

/-- An instant at a whole second is made of that second and no nanosecond. -/
theorem ofSecond?_eq_some_iff {second : Int} {t : Instant} :
    ofSecond? second = some t ↔ t.second = second ∧ t.nano = 0 := by
  simp only [ofSecond?, of?]
  constructor
  · intro h
    split at h
    · cases h; exact ⟨rfl, rfl⟩
    · cases h
  · rintro ⟨rfl, hn⟩
    rw [dif_pos ⟨by decide, t.inCalendar⟩]
    cases t
    simp_all

end Instant

end Calendar

end Standings
