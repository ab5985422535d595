/-! # Decimal integers as text

An integer is written with the fewest ASCII digits and a minus sign if it is negative.
Reading is wider: an optional sign, then one or more ASCII digits, leading zeros allowed, as
long as the value fits the range asked for.

Reading goes from left to right and stops at the first character it cannot take, so a text
with two faults reports the one that stands first: in `99999999999999999999x` the value has
already left the range of a 64-bit integer when `x` is reached. -/

namespace Standings

namespace Decimal

/-- Why a text is not an integer of the range asked for. -/
inductive Fault where
  /-- The text has no character. -/
  | empty
  /-- A character is no digit, or a sign stands alone. -/
  | invalidDigit
  /-- The value lies above the range. -/
  | tooLarge
  /-- The value lies below the range. -/
  | tooSmall
  deriving DecidableEq, Repr

/-- The sentence that reports a fault. -/
def Fault.message : Fault → String
  | .empty => "cannot parse integer from empty string"
  | .invalidDigit => "invalid digit found in string"
  | .tooLarge => "number too large to fit in target type"
  | .tooSmall => "number too small to fit in target type"

/-- The value of an ASCII digit. -/
def digit? (c : Char) : Option Nat :=
  if c.isDigit then some (c.toNat - '0'.toNat) else none

/-- Reads digits that continue the value `acc`. A character that is no digit is refused, and so
is the first digit that takes the value past `limit`, with the fault `beyond`. -/
def readDigits (limit : Nat) (beyond : Fault) : Nat → List Char → Except Fault Nat
  | acc, [] => .ok acc
  | acc, c :: rest =>
    match digit? c with
    | none => .error .invalidDigit
    | some d =>
      if 10 * acc + d ≤ limit then readDigits limit beyond (10 * acc + d) rest
      else .error beyond

/-- Reads what follows a sign: at least one digit. -/
def readMagnitude (limit : Nat) (beyond : Fault) : List Char → Except Fault Nat
  | [] => .error .invalidDigit
  | digits => readDigits limit beyond 0 digits

/-- Reads a natural number of at most `limit`. A minus sign is no digit, also before a zero. -/
def readNat (limit : Nat) : List Char → Except Fault Nat
  | [] => .error .empty
  | '+' :: digits => readMagnitude limit .tooLarge digits
  | digits => readMagnitude limit .tooLarge digits

/-- Reads an integer between `-bound` and `bound - 1`. -/
def readInt (bound : Nat) : List Char → Except Fault Int
  | [] => .error .empty
  | '+' :: digits => Int.ofNat <$> readMagnitude (bound - 1) .tooLarge digits
  | '-' :: digits => (fun n => -Int.ofNat n) <$> readMagnitude bound .tooSmall digits
  | digits => Int.ofNat <$> readMagnitude (bound - 1) .tooLarge digits

/-- Reads a signed 64-bit integer. -/
def readInt64 (text : List Char) : Except Fault Int64 :=
  Int64.ofInt <$> readInt (Int64.size / 2) text

/-- Reads an unsigned 64-bit integer. -/
def readUInt64 (text : List Char) : Except Fault UInt64 :=
  UInt64.ofNat <$> readNat (UInt64.size - 1) text

/-- Reads an unsigned 16-bit integer. -/
def readUInt16 (text : List Char) : Except Fault UInt16 :=
  UInt16.ofNat <$> readNat (UInt16.size - 1) text

/-- Reads an unsigned 8-bit integer. -/
def readUInt8 (text : List Char) : Except Fault UInt8 :=
  UInt8.ofNat <$> readNat (UInt8.size - 1) text

/-- The fewest digits of `n`. -/
def ofNat (n : Nat) : List Char :=
  Nat.toDigits 10 n

/-- The fewest digits of `i`, after a minus sign if it is negative. -/
def ofInt : Int → List Char
  | .ofNat n => ofNat n
  | .negSucc n => '-' :: ofNat (n + 1)

/-- The text of an integer. -/
def write (i : Int) : String :=
  String.ofList (ofInt i)

/-- The text of `n` with at least `width` digits, filled up with zeros on the left. -/
def padded (width n : Nat) : String :=
  let digits := ofNat n
  String.ofList (List.replicate (width - digits.length) '0' ++ digits)

/-- A digit's value is the character's distance from zero. -/
theorem digit?_eq_some_iff {c : Char} {d : Nat} :
    digit? c = some d ↔ c.isDigit ∧ c.toNat - '0'.toNat = d := by
  simp [digit?]

end Decimal

end Standings
