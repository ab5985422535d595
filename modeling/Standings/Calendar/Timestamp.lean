import Standings.Calendar.Instant
import Standings.Text.Blank
import Standings.Text.Decimal

/-! # Timestamps

The text of an instant: `2024-03-04T05:06:07.500Z`. Writing uses UTC and a fraction of 0, 3, 6 or
9 digits, the fewest that are exact; a year outside 0 to 9999 has a sign and at least four digits.
Reading takes any offset from UTC below a day, any number of fraction digits, of which those after
the ninth are dropped, a blank or either case of `T` and `Z`, and skips blanks before the text. -/

namespace Standings

namespace Calendar

namespace Timestamp

/-- Reads exactly `n` digits after the value `acc`. -/
def takeDigits (acc : Nat) : Nat → List Char → Option (Nat × List Char)
  | 0, rest => some (acc, rest)
  | _ + 1, [] => none
  | n + 1, c :: rest =>
    match Decimal.digit? c with
    | none => none
    | some d => takeDigits (10 * acc + d) n rest

/-- Reads digits as long as there are any: their number, their value, and the rest. -/
def takeRun (count acc : Nat) : List Char → Nat × Nat × List Char
  | [] => (count, acc, [])
  | c :: rest =>
    match Decimal.digit? c with
    | none => (count, acc, c :: rest)
    | some d => takeRun (count + 1) (10 * acc + d) rest

/-- Drops one expected character. -/
def expect (c : Char) : List Char → Option (List Char)
  | [] => none
  | d :: rest => if d = c then some rest else none

/-- Reads a year: four digits, or a sign and at least four digits. -/
def takeYear : List Char → Option (Int × List Char)
  | '+' :: rest => signed 1 rest
  | '-' :: rest => signed (-1) rest
  | text => (takeDigits 0 4 text).map fun (n, rest) => (Int.ofNat n, rest)
where
  /-- Reads the digits of a year that has a sign. -/
  signed (sign : Int) (text : List Char) : Option (Int × List Char) :=
    let (count, n, rest) := takeRun 0 0 text
    if 4 ≤ count then some (sign * n, rest) else none

/-- Reads the fraction of a second in nanoseconds. -/
def takeFraction : List Char → Option (Nat × List Char)
  | '.' :: rest =>
    let digits := rest.takeWhile Char.isDigit
    -- Nine digits are nanoseconds; fewer stand for the same with zeros behind them.
    let (count, n, _) := takeRun 0 0 (digits.take 9)
    if digits = [] then none else some (n * Nat.pow 10 (9 - count), rest.dropWhile Char.isDigit)
  | rest => some (0, rest)

/-- Reads an offset from UTC in seconds. -/
def takeOffset : List Char → Option (Int × List Char)
  | 'Z' :: rest => some (0, rest)
  | 'z' :: rest => some (0, rest)
  | '+' :: rest => clock 1 rest
  | '-' :: rest => clock (-1) rest
  | _ => none
where
  /-- Reads hours and minutes of an offset. -/
  clock (sign : Int) (text : List Char) : Option (Int × List Char) := do
    let (hours, rest) ← takeDigits 0 2 text
    let rest ← expect ':' rest
    let (minutes, rest) ← takeDigits 0 2 rest
    if hours ≤ 23 ∧ minutes ≤ 59 then
      some (sign * (hours * 3600 + minutes * 60), rest)
    else none

/-- Reads an instant and the offset it is written in. -/
def parse? (text : String) : Option (Instant × Int) := do
  let (year, rest) ← takeYear (text.toList.dropWhile Text.isBlank)
  let rest ← expect '-' rest
  let (month, rest) ← takeDigits 0 2 rest
  let rest ← expect '-' rest
  let (day, rest) ← takeDigits 0 2 rest
  let rest ← (expect 'T' rest).or ((expect 't' rest).or (expect ' ' rest))
  let (hour, rest) ← takeDigits 0 2 rest
  let rest ← expect ':' rest
  let (minute, rest) ← takeDigits 0 2 rest
  let rest ← expect ':' rest
  let (second, rest) ← takeDigits 0 2 rest
  let (nano, rest) ← takeFraction rest
  let (offset, rest) ← takeOffset rest
  let date ← Date.ofCivil? ⟨year, month, day⟩
  if hour ≤ 23 ∧ minute ≤ 59 ∧ second ≤ 60 ∧ rest = [] then
    -- Second 60 is the second before it with a second's worth of nanoseconds more.
    let read := date.day * 86400 + (hour * 3600 + minute * 60 + min second 59 : Nat) - offset
    let instant ← Instant.of? read (if second = 60 then nano + 1000000000 else nano)
    some (instant, offset)
  else none

/-- The text of a year. -/
def yearText (year : Int) : String :=
  if 0 ≤ year ∧ year ≤ 9999 then Decimal.padded 4 year.toNat
  else (if year < 0 then "-" else "+") ++ Decimal.padded 4 year.natAbs

/-- The text of a fraction of a second with the fewest of 0, 3, 6 or 9 digits. -/
def fractionText (nano : Nat) : String :=
  if nano = 0 then ""
  else if nano % 1000000 = 0 then "." ++ Decimal.padded 3 (nano / 1000000)
  else if nano % 1000 = 0 then "." ++ Decimal.padded 6 (nano / 1000)
  else "." ++ Decimal.padded 9 nano

/-- The text of an instant in UTC. -/
def write (t : Instant) : String :=
  let date := (Date.mk (t.second / 86400)).civil
  let ofDay := (t.second % 86400).toNat
  -- A leap second is counted on: behind the last second of a minute it is second 60, and behind
  -- any other its text is that of the next second.
  let second := ofDay % 60 + t.nano / 1000000000
  yearText date.year ++ "-" ++ Decimal.padded 2 date.month ++ "-"
    ++ Decimal.padded 2 date.dayOfMonth ++ "T" ++ Decimal.padded 2 (ofDay / 3600) ++ ":"
    ++ Decimal.padded 2 (ofDay / 60 % 60) ++ ":" ++ Decimal.padded 2 second
    ++ fractionText (t.nano % 1000000000) ++ "Z"

end Timestamp

end Calendar

end Standings
