import Standings.Text.Split

/-! # Punycode

Text in the letters, digits and hyphens of ASCII. The ASCII characters of the text stand
before the last hyphen. What follows it tells where the others go: each is given by its distance
from the one before it, counted through all places and all characters, as a number in base 36 with
its lowest digit first. A digit below a threshold is the last one of a number; the thresholds adapt
to the sizes of the numbers before. -/

namespace Standings

namespace Punycode

/-- The value of a digit: letters first. -/
def digit? (c : Char) : Option Nat :=
  if 'a' ≤ c ∧ c ≤ 'z' then some (c.toNat - 'a'.toNat)
  else if 'A' ≤ c ∧ c ≤ 'Z' then some (c.toNat - 'A'.toNat)
  else if '0' ≤ c ∧ c ≤ '9' then some (c.toNat - '0'.toNat + 26)
  else none

/-- The threshold of the digit at a position, which is counted in steps of 36. -/
def threshold (bias position : Nat) : Nat :=
  if position ≤ bias then 1 else if bias + 26 ≤ position then 26 else position - bias

/-- Divides until a distance is small, and counts the divisions in steps of 36. -/
def reduce (delta count : Nat) : Nat × Nat :=
  if 455 < delta then reduce (delta / 35) (count + 36) else (delta, count)
termination_by delta
decreasing_by exact Nat.div_lt_self (by omega) (by omega)

/-- The bias behind a distance, in a text that has `length` characters with the new one. -/
def adapt (delta length : Nat) (isFirst : Bool) : Nat :=
  let delta := if isFirst then delta / 700 else delta / 2
  let (delta, count) := reduce (delta + delta / length) 0
  count + 36 * delta / (delta + 38)

/-- Reads the digits of a number from a position on and adds it, by its weight, to `total`; returns
what follows as well. Numbers and weights have at most 32 bits. -/
def number? (bias : Nat) : Nat → Nat → Nat → List Char → Option (Nat × List Char)
  | _, _, _, [] => none
  | position, weight, total, c :: rest => do
    let digit ← digit? c
    let total := total + digit * weight
    let least := threshold bias position
    if UInt32.size ≤ total then none
    else if digit < least then some (total, rest)
    else
      let weight := weight * (36 - least)
      if UInt32.size ≤ weight then none else number? bias (position + 36) weight total rest

/-- The character that was put into a text last, and what follows from it for the next. -/
structure Place where
  /-- Its code point; no later one is less. -/
  code : Nat := 0x80
  /-- The place behind it, from which the next one is counted. -/
  index : Nat := 0
  /-- The bias of the thresholds. -/
  bias : Nat := 72
  deriving DecidableEq, Repr

/-- Puts the characters that digits describe into a text. -/
def insertAll? (text : List Char) (place : Place) (digits : List Char) : Option (List Char) :=
  if digits = [] then some text
  else match number? place.bias 36 1 place.index digits with
    | none => none
    | some (total, rest) =>
      let length := text.length + 1
      let code := place.code + total / length
      let index := total % length
      let bias := adapt (total - place.index) length (place.index = 0)
      if code.isValidChar ∧ rest.length < digits.length then
        insertAll? (text.insertIdx index (Char.ofNat code)) ⟨code, index + 1, bias⟩ rest
      else none
termination_by digits.length

/-- The text of a written form. A hyphen at its start is a digit, and no digit has this form. -/
def decode? (written : List Char) : Option (List Char) :=
  match Text.cutAtLast? '-' written with
  | none => insertAll? [] {} written
  | some ([], _) => none
  | some (basic, digits) => insertAll? basic {} digits

end Punycode

end Standings
