import Standings.Json.Token

/-! # Numbers too large to hold

A number is held as a whole number below 2^64 times a power of ten: digits beyond those of the
whole number only count for the power. Whole number and power are each rounded to a binary number
with 53 digits, and the number is too large if their product rounds to one past 2^1024.
`Magnitude.lapse?` says where a reader of the number's literal finds that out. -/

namespace Standings

namespace Json

namespace Magnitude

/-- A number without its sign. -/
structure Scaled where
  /-- The whole number. -/
  significand : Nat
  /-- The power of ten it is to be multiplied by. -/
  exponent : Int
  deriving DecidableEq, Repr

/-- The nearest number with 53 binary digits before its zeros; of two the one with an even digit
in the last place. -/
def round53 (n : Nat) : Nat :=
  let unit := Nat.pow 2 (n.log2 - 52)
  let quotient := n / unit
  let rest := n % unit
  if unit < 2 * rest ∨ (unit = 2 * rest ∧ quotient % 2 = 1) then (quotient + 1) * unit
  else quotient * unit

/-- The least number that rounds to 2^1024. -/
def limit : Nat := Nat.pow 2 1024 - Nat.pow 2 970

/-- The greatest power of ten that is looked up. -/
def greatestPower : Int := 308

/-- Whether a number can be held. -/
def Scaled.fits (number : Scaled) : Bool :=
  number.significand = 0 || number.exponent < 0
    || (number.exponent ≤ greatestPower
      && round53 number.significand * round53 (Nat.pow 10 number.exponent.toNat) < limit)

/-- Appends digits to a whole number as long as it stays below 2^64; how many are left over. -/
def takeDigits : Nat → List Char → Nat × Nat
  | value, [] => (value, 0)
  | value, c :: rest =>
    let next := 10 * value + (c.toNat - '0'.toNat)
    if next < UInt64.size then takeDigits next rest else (value, rest.length + 1)

/-- The value of the digits of an exponent, or the digits behind the one with which it reaches
2^31. -/
def takeExponent : Nat → List Char → Except (List Char) Nat
  | value, [] => .ok value
  | value, c :: rest =>
    let next := 10 * value + (c.toNat - '0'.toNat)
    if next < UInt32.size / 2 then takeExponent next rest else .error rest

/-- The number of the digits before and behind the point. -/
def ofDigits (digits fraction : List Char) : Scaled :=
  let (significand, left) := takeDigits 0 digits
  let (significand, fractionLeft) := takeDigits significand fraction
  ⟨significand, left - (fraction.length - fractionLeft : Nat)⟩

/-- Where a reader finds that a number cannot be held, if it cannot. -/
def lapse? (literal : List Char) : Option Lapse :=
  let unsigned := literal.dropWhile (· = '-')
  let digits := unsigned.takeWhile Char.isDigit
  let rest := unsigned.dropWhile Char.isDigit
  let (fraction, rest) := match rest with
    | '.' :: rest => (rest.takeWhile Char.isDigit, rest.dropWhile Char.isDigit)
    | rest => ([], rest)
  let number := ofDigits digits fraction
  match rest with
  | [] => if number.fits then none else some .atEnd
  | _ :: exponent =>
    let negative := exponent.head? = some '-'
    match takeExponent 0 (exponent.filter Char.isDigit) with
    | .error behind =>
      if number.significand = 0 ∨ negative then none
      -- The digits behind that one are not read any more.
      else some (if behind.isEmpty then .atEnd else .inside)
    | .ok exponent =>
      let exponent := if negative then number.exponent - exponent else number.exponent + exponent
      if (Scaled.mk number.significand exponent).fits then none else some .atEnd

end Magnitude

end Json

end Standings
