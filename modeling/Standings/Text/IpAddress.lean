import Standings.Text.Decimal
import Standings.Text.Hex
import Standings.Text.Split

/-! # Addresses of hosts

Which texts are the numeric address of a host. The strict forms are the four decimal numbers of
IPv4 and the eight hexadecimal groups of IPv6, of which one run may be left out for a gap. URLs
also know a lax form of IPv4, of up to four numbers in base 8, 10 or 16, the last of which stands
for all bytes that are left. -/

namespace Standings

namespace Ip

/-- Whether a text is four numbers below 256 without leading zeros. -/
def isIpv4 (text : List Char) : Bool :=
  let parts := Text.pieces '.' text
  parts.length = 4 && parts.all fun part =>
    part.all Char.isDigit && (part = ['0'] || part.head? != some '0')
      && (Decimal.readNat 255 part).toOption.isSome

/-- The number of 16-bit groups in one side of an IPv6 address; `none` if it is no such side. An
IPv4 address at the very end counts for two. -/
def groups? (pieces : List (List Char)) (atEnd : Bool) : Option Nat :=
  match pieces with
  | [] => some 0
  | piece :: rest =>
    if 1 ≤ piece.length ∧ piece.length ≤ 4 ∧ piece.all (fun c => (Hex.digit? c).isSome) then
      (groups? rest atEnd).map (· + 1)
    else if atEnd ∧ rest = [] ∧ isIpv4 piece then some 2
    else none

/-- Cuts a text at the first pair of colons. -/
def cutAtGap? : List Char → Option (List Char × List Char)
  | [] => none
  | ':' :: ':' :: rest => some ([], rest)
  | c :: rest => (cutAtGap? rest).map fun (left, right) => (c :: left, right)

/-- The pieces of one side of an IPv6 address; an empty side has none. -/
def side (text : List Char) : List (List Char) :=
  if text = [] then [] else Text.pieces ':' text

/-- Whether a text is an IPv6 address: eight groups, or fewer with one gap. -/
def isIpv6 (text : List Char) : Bool :=
  match cutAtGap? text with
  | none => groups? (side text) true = some 8
  | some (left, right) =>
    match groups? (side left) false, groups? (side right) true with
    | some m, some n => m + n ≤ 7
    | _, _ => false

/-- Whether a text is the address of a host. -/
def isAddress (text : List Char) : Bool := isIpv4 text || isIpv6 text

/-! ## The lax form of IPv4 -/

/-- The value of a text in a base; `none` if a character is no digit of it. -/
def digits? (base : Nat) (text : List Char) : Option Nat :=
  text.foldlM
    (fun value c => do
      let digit ← Hex.digit? c
      if digit < base then some (base * value + digit) else none)
    0

/-- A number of the lax form: base 16 behind `0x`, base 8 behind another zero, else base 10. A
base without digits behind it is zero. -/
def number? : List Char → Option Nat
  | [] => none
  | ['0'] => some 0
  | '0' :: c :: rest => if c = 'x' ∨ c = 'X' then digits? 16 rest else digits? 8 (c :: rest)
  | text => digits? 10 text

/-- The parts of a host's name, last first, without the empty one behind a dot at its end. -/
def lastParts (host : List Char) : List (List Char) :=
  match (Text.pieces '.' host).reverse with
  | [] :: parts => parts
  | parts => parts

/-- Whether a host must be an IPv4 address, because its last part is a number. -/
def endsInNumber (host : List Char) : Bool :=
  match lastParts host with
  | [] => false
  | last :: _ => (!last.isEmpty && last.all Char.isDigit) || (number? last).isSome

/-- Whether a host is an IPv4 address in the lax form: all numbers but the last are bytes, and
the last one fits into the bytes that are left. -/
def isLaxIpv4 (host : List Char) : Bool :=
  match (lastParts host).mapM number? with
  | some (last :: others) =>
    others.length ≤ 3 && others.all (· ≤ 255)
      && last < Nat.pow 256 (4 - others.length)
  | _ => false

end Ip

end Standings
