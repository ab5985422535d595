/-! # Hexadecimal text

Digits in base sixteen, in either case, numbers, and bytes as two digits each. -/

namespace Standings

namespace Hex

/-- The value of a digit. -/
def digit? (c : Char) : Option Nat :=
  if '0' ≤ c ∧ c ≤ '9' then some (c.toNat - '0'.toNat)
  else if 'a' ≤ c ∧ c ≤ 'f' then some (c.toNat - 'a'.toNat + 10)
  else if 'A' ≤ c ∧ c ≤ 'F' then some (c.toNat - 'A'.toNat + 10)
  else none

/-- The value of a text of digits; `none` without a digit or with another character. -/
def number? : List Char → Option Nat
  | [] => none
  | digits => digits.foldlM (fun value c => (digit? c).map (16 * value + ·)) 0

/-- The byte of two digits. -/
def byte? (high low : Char) : Option UInt8 := do
  let high ← digit? high
  let low ← digit? low
  return UInt8.ofNat (16 * high + low)

/-- The bytes of a text of digits. -/
def decode? : List Char → Option (List UInt8)
  | [] => some []
  | [_] => none
  | high :: low :: rest => do
    let byte ← byte? high low
    let bytes ← decode? rest
    return byte :: bytes

/-- The digits of bytes, in lower case. -/
def encode (bytes : List UInt8) : List Char :=
  bytes.flatMap fun b => [(b.toNat / 16).digitChar, (b.toNat % 16).digitChar]

end Hex

end Standings
