import Standings.Text.Hex
import Standings.Text.Split
import Standings.Text.Utf8

/-! # Form-encoded pairs

The pairs of names and values in a query string. Pieces stand between ampersands, and an empty
piece is no pair; a piece is cut at its first equals sign, and without one the value is empty.
A plus is a blank, a percent sign with two hexadecimal digits is the byte they name, and a percent
sign without them stands for itself. Bytes that are no text become replacement characters. -/

namespace Standings

namespace FormUrlencoded

open Utf8 (ascii)

/-- Reads pluses as blanks. -/
def plusToBlank (bytes : List UInt8) : List UInt8 :=
  bytes.map fun b => if b = ascii '+' then ascii ' ' else b

/-- Reads percent signs with two digits as bytes. -/
def percentDecode : List UInt8 → List UInt8
  | [] => []
  | b :: high :: low :: rest =>
    if b = ascii '%' then
      match Hex.byte? (Char.ofNat high.toNat) (Char.ofNat low.toNat) with
      | some byte => byte :: percentDecode rest
      -- A percent sign without two digits behind it stands for itself.
      | none => b :: percentDecode (high :: low :: rest)
    else b :: percentDecode (high :: low :: rest)
  | b :: rest => b :: percentDecode rest

/-- The text of an encoded name or value. -/
def decode (bytes : List UInt8) : String :=
  Utf8.decodeLossy (percentDecode (plusToBlank bytes))

/-- The name and value of a piece. -/
def pair (piece : List UInt8) : String × String :=
  match Text.cutAtFirst? (ascii '=') piece with
  | some (name, value) => (decode name, decode value)
  | none => (decode piece, "")

/-- The pairs of a query string, in order. -/
def pairs (query : List UInt8) : List (String × String) :=
  ((Text.pieces (ascii '&') query).filter (!·.isEmpty)).map pair

end FormUrlencoded

end Standings
