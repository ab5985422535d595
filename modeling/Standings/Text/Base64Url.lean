/-! # Unpadded URL-safe base64

Bytes as text over `A`–`Z`, `a`–`z`, `0`–`9`, `-` and `_`. Three bytes make four letters; one or
two bytes at the end make two or three letters whose unused low bits are zero, and no padding
follows. Reading is strict: it refuses any other character, a single letter left over, and
unused bits that are not zero, so every byte list has exactly one text. -/

namespace Standings

namespace Base64Url

/-- The letter of a value below 64. -/
def letter (n : Nat) : Char :=
  if n < 26 then Char.ofNat ('A'.toNat + n)
  else if n < 52 then Char.ofNat ('a'.toNat + (n - 26))
  else if n < 62 then Char.ofNat ('0'.toNat + (n - 52))
  else if n = 62 then '-'
  else '_'

/-- The value of a letter; `none` outside the alphabet. -/
def value? (c : Char) : Option Nat :=
  if 'A' ≤ c ∧ c ≤ 'Z' then some (c.toNat - 'A'.toNat)
  else if 'a' ≤ c ∧ c ≤ 'z' then some (c.toNat - 'a'.toNat + 26)
  else if '0' ≤ c ∧ c ≤ '9' then some (c.toNat - '0'.toNat + 52)
  else if c = '-' then some 62
  else if c = '_' then some 63
  else none

/-- The letters of a byte list. -/
def encode : List UInt8 → List Char
  | [] => []
  | [a] =>
    let n := a.toNat * 16
    [letter (n / 64), letter (n % 64)]
  | [a, b] =>
    let n := (a.toNat * 256 + b.toNat) * 4
    [letter (n / 4096), letter (n / 64 % 64), letter (n % 64)]
  | a :: b :: c :: rest =>
    let n := a.toNat * 65536 + b.toNat * 256 + c.toNat
    letter (n / 262144) :: letter (n / 4096 % 64) :: letter (n / 64 % 64) :: letter (n % 64)
      :: encode rest

/-- The bytes of a list of values below 64, four at a time. -/
def regroup? : List Nat → Option (List UInt8)
  | [] => some []
  | [_] => none
  | [w, x] =>
    -- Twelve bits hold one byte; the four left over are unused.
    let n := w * 64 + x
    if n % 16 = 0 then some [UInt8.ofNat (n / 16)] else none
  | [w, x, y] =>
    -- Eighteen bits hold two bytes; the two left over are unused.
    let n := w * 4096 + x * 64 + y
    if n % 4 = 0 then some [UInt8.ofNat (n / 1024), UInt8.ofNat (n / 4 % 256)] else none
  | w :: x :: y :: z :: rest =>
    let n := w * 262144 + x * 4096 + y * 64 + z
    (regroup? rest).map fun bytes =>
      UInt8.ofNat (n / 65536) :: UInt8.ofNat (n / 256 % 256) :: UInt8.ofNat (n % 256) :: bytes

/-- The bytes of a list of letters. -/
def decode? (letters : List Char) : Option (List UInt8) :=
  (letters.mapM value?).bind regroup?

/-- A letter has the value it was made from. -/
theorem value?_letter {n : Nat} (h : n < 64) : value? (letter n) = some n := by
  have : ∀ m < 64, value? (letter m) = some m := by decide
  exact this n h

end Base64Url

end Standings
