/-! # Dates

A date of the proleptic Gregorian calendar is kept as its number of days from 1970-01-01, so that
days are added and compared as integers. Years are counted from March, which puts the leap day at
the end of a year; a date is then split into 400, 100, 4 and 1 years and the day of its year, and
the months follow from that day by one division.

Main statement: `dayNumber_civil`, the day number of a date's year, month and day is the date's. -/

namespace Standings

namespace Calendar

/-- A day of the calendar, by its distance from 1970-01-01. -/
structure Date where
  /-- Days from 1970-01-01. -/
  day : Int
  deriving DecidableEq, Repr

/-- A date as it is written. -/
structure Civil where
  /-- The year; the year before 1 is 0. -/
  year : Int
  /-- The month, 1 to 12. -/
  month : Nat
  /-- The day of the month, from 1. -/
  dayOfMonth : Nat
  deriving DecidableEq, Repr

namespace Civil

/-- Whether a year has 366 days. -/
def isLeapYear (year : Int) : Bool :=
  year % 4 = 0 && (year % 100 ≠ 0 || year % 400 = 0)

/-- The number of days of a month. -/
def monthLength (year : Int) (month : Nat) : Nat :=
  if month = 2 then (if isLeapYear year then 29 else 28)
  else if month = 4 ∨ month = 6 ∨ month = 9 ∨ month = 11 then 30
  else 31

/-- Whether there is such a date. -/
def isValid (c : Civil) : Bool :=
  1 ≤ c.month && c.month ≤ 12 && 1 ≤ c.dayOfMonth && c.dayOfMonth ≤ monthLength c.year c.month

/-- Days from 1970-01-01. -/
def dayNumber (c : Civil) : Int :=
  let year := if c.month ≤ 2 then c.year - 1 else c.year
  let month := if c.month ≤ 2 then c.month + 9 else c.month - 3
  365 * year + year / 4 - year / 100 + year / 400 + (153 * month + 2) / 5 + c.dayOfMonth - 719469

end Civil

namespace Date

/-- First day of the calendar: 1 January of the year -262143. -/
def first : Date := ⟨-96465292⟩

/-- Last day of the calendar: 31 December of the year 262142. -/
def last : Date := ⟨95026236⟩

/-- Whether a day lies in the calendar. -/
def inCalendar (d : Date) : Bool :=
  first.day ≤ d.day && d.day ≤ last.day

/-- The day that lies `n` days later. -/
def addDays (d : Date) (n : Int) : Date := ⟨d.day + n⟩

/-- Days since the last Monday. -/
def sinceMonday (d : Date) : Int := (d.day + 3) % 7

/-- Splits days from 1 March of the year 0 into a year that starts in March and the days from its
first of March. The fourth century of four and the fourth year of four are the longer ones. -/
def marchYear (days : Int) : Int × Int :=
  let era := days / 146097
  let ofEra := days % 146097
  -- The last day of the fourth century would begin a fifth.
  let century := min 3 (ofEra / 36524)
  let ofCentury := ofEra - century * 36524
  let olympiad := ofCentury / 1461
  let ofOlympiad := ofCentury % 1461
  -- The leap day at the end of the fourth year would begin a fifth.
  let single := min 3 (ofOlympiad / 365)
  (era * 400 + century * 100 + olympiad * 4 + single, ofOlympiad - single * 365)

/-- Year, month and day of a date. -/
def civil (d : Date) : Civil :=
  let (year, ofYear) := marchYear (d.day + 719468)
  -- From March on, five months have 153 days.
  let month := (5 * ofYear + 2) / 153
  let dayOfMonth := (ofYear - (153 * month + 2) / 5 + 1).toNat
  if month < 10 then ⟨year, (month + 3).toNat, dayOfMonth⟩
  else ⟨year + 1, (month - 9).toNat, dayOfMonth⟩

/-- The date that is written so, if there is one and it lies in the calendar. -/
def ofCivil? (c : Civil) : Option Date :=
  if c.isValid ∧ inCalendar ⟨c.dayNumber⟩ then some ⟨c.dayNumber⟩ else none

/-- The days of a year that starts in March are the days before it and the days in it. -/
theorem marchYear_days (days : Int) :
    365 * (marchYear days).1 + (marchYear days).1 / 4 - (marchYear days).1 / 100
        + (marchYear days).1 / 400 + (marchYear days).2 = days
      ∧ 0 ≤ (marchYear days).2 ∧ (marchYear days).2 ≤ 365 := by
  simp only [marchYear]
  generalize hc : min 3 (days % 146097 / 36524) = century
  generalize hq : (days % 146097 - century * 36524) / 1461 = olympiad
  generalize hs : min 3 ((days % 146097 - century * 36524) % 1461 / 365) = single
  generalize he : days / 146097 = era
  -- Each part stays within the next greater one.
  have century_le : 0 ≤ century ∧ century ≤ 3 := by omega
  have olympiad_le : 0 ≤ olympiad ∧ olympiad ≤ 24 := by omega
  have single_le : 0 ≤ single ∧ single ≤ 3 := by omega
  -- The leap rule counts the parts that lie before the year.
  have quarters : (era * 400 + century * 100 + olympiad * 4 + single) / 4
      = era * 100 + century * 25 + olympiad := by omega
  have centuries : (era * 400 + century * 100 + olympiad * 4 + single) / 100
      = era * 4 + century := by omega
  have eras : (era * 400 + century * 100 + olympiad * 4 + single) / 400 = era := by omega
  rw [quarters, centuries, eras]
  omega

/-- Writing a date and counting its days gives the date back. -/
theorem dayNumber_civil (d : Date) : d.civil.dayNumber = d.day := by
  have days := marchYear_days (d.day + 719468)
  unfold civil
  generalize marchYear (d.day + 719468) = parts at *
  obtain ⟨year, ofYear⟩ := parts
  obtain ⟨total, nonneg, le⟩ := days
  simp only at *
  -- March to December keep the year; January and February belong to the next.
  generalize hm : (5 * ofYear + 2) / 153 = month
  have month_le : 0 ≤ month ∧ month ≤ 11 := by omega
  split
  · have hlate : ¬ (month + 3).toNat ≤ 2 := by omega
    simp only [Civil.dayNumber, hlate, if_false]
    have : (((month + 3).toNat - 3 : Nat) : Int) = month := by omega
    omega
  · have hearly : (month - 9).toNat ≤ 2 := by omega
    simp only [Civil.dayNumber, hearly, if_true]
    have : (((month - 9).toNat + 9 : Nat) : Int) = month := by omega
    omega

end Date

end Calendar

end Standings
