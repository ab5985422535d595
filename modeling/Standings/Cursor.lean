import Standings.Standing
import Standings.Text.Base64Url
import Standings.Text.Decimal
import Standings.Text.Split
import Standings.Text.Utf8

/-! # Cursors

A cursor is the text that a page gives out for a place on a board. It holds the place's sort key
and not its index, so it still means the same place after users have come or gone: the unpadded
URL-safe base64 of `rank:<score>:<user>`.

Reading takes any text of that shape, also with signs or leading zeros that writing never
produces. -/

namespace Standings

namespace Cursor

/-- The word every cursor's payload starts with. -/
def tag : List Char := "rank:".toList

/-- What a cursor for a standing holds, before base64. -/
def payload (place : Standing) : String :=
  String.ofList
    (tag ++ Decimal.ofInt place.score.toInt ++ ':' :: Decimal.ofInt place.user.value.toInt)

/-- The cursor for a standing. -/
def encode (place : Standing) : String :=
  String.ofList (Base64Url.encode (Utf8.encode (payload place)))

/-- What follows the tag in a payload. -/
def untag? : List Char → Option (List Char)
  | 'r' :: 'a' :: 'n' :: 'k' :: ':' :: rest => some rest
  | _ => none

/-- Reads a payload. -/
def ofPayload? (text : String) : Option Standing := do
  let rest ← untag? text.toList
  -- A second colon would stand in the user's part, which is then no number.
  let (score, user) ← Text.cutAtFirst? ':' rest
  let score ← (Decimal.readInt64 score).toOption
  let user ← (Decimal.readInt64 user).toOption
  return ⟨⟨user⟩, score⟩

/-- Reads a cursor: strict base64 of the UTF-8 bytes of a payload. -/
def decode? (cursor : String) : Option Standing := do
  let bytes ← Base64Url.decode? cursor.toList
  let text ← Utf8.decode? bytes
  ofPayload? text

end Cursor

end Standings
