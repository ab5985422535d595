import Standings.Json.Token
import Standings.Text.Utf8

/-! # JSON values

A JSON value, its tokens, and the reading of tokens by a machine that keeps the lists and objects
that are still open on a stack (`Nesting.step`), so no depth of nesting is too much for it.
Members of an object keep their order, and a name may occur twice: what that means is for the
reader of a record to say. -/

namespace Standings

/-- A JSON value. -/
inductive Json where
  /-- No value. -/
  | null
  /-- A truth value. -/
  | bool (value : Bool)
  /-- A number without fraction and exponent. -/
  | integer (value : Int)
  /-- Any other number, by its literal. -/
  | real (literal : String)
  /-- A string. -/
  | string (wording : Json.Wording)
  /-- A list. -/
  | array (elements : List Json)
  /-- An object: names with values, in the order they are written. -/
  | object (members : List (Json.Wording × Json))

namespace Json

/-- A string value. -/
def text (s : String) : Json := .string (.text s)

/-- An object of fields. -/
def fields (members : List (String × Json)) : Json :=
  .object (members.map fun (name, value) => (.text name, value))

mutual

/-- The tokens of a value. -/
def tokens : Json → List Token
  | .null => [.null]
  | .bool value => [.bool value]
  | .integer value => [.integer value]
  | .real literal => [.real literal]
  | .string wording => [.string wording]
  | .array [] => [.openArray, .closeArray]
  | .array (first :: rest) => .openArray :: tokens first ++ moreElements rest
  | .object [] => [.openObject, .closeObject]
  | .object ((name, value) :: rest) =>
    .openObject :: .string name :: .colon :: tokens value ++ moreMembers rest

/-- The tokens behind the first element of a list. -/
def moreElements : List Json → List Token
  | [] => [.closeArray]
  | next :: rest => .comma :: tokens next ++ moreElements rest

/-- The tokens behind the first member of an object. -/
def moreMembers : List (Wording × Json) → List Token
  | [] => [.closeObject]
  | (name, value) :: rest => .comma :: .string name :: .colon :: tokens value ++ moreMembers rest

end

/-- The text of a value, without blanks. -/
def write (j : Json) : String :=
  String.ofList (j.tokens.flatMap Token.write)

/-- A list or object that is still open, with what has been read of it, last part first. -/
inductive Frame where
  /-- A list. -/
  | array (elements : List Json)
  /-- An object and the name whose value comes next. -/
  | object (members : List (Wording × Json)) (name : Wording)

/-- What may come next, and the frames that are open around it, innermost first. -/
inductive Nesting where
  /-- A value. -/
  | atValue (stack : List Frame)
  /-- The first element of a list, or its end. -/
  | atFirstElement (stack : List Frame)
  /-- A comma behind an element, or the end of the list. -/
  | afterElement (elements : List Json) (stack : List Frame)
  /-- The first name of an object, or its end. -/
  | atFirstName (stack : List Frame)
  /-- A name. -/
  | atName (members : List (Wording × Json)) (stack : List Frame)
  /-- The colon behind a name. -/
  | atColon (members : List (Wording × Json)) (name : Wording) (stack : List Frame)
  /-- A comma behind a member, or the end of the object. -/
  | afterMember (members : List (Wording × Json)) (stack : List Frame)
  /-- Nothing: the text's value is complete. -/
  | complete (value : Json)

namespace Nesting

/-- Gives a value to the innermost open frame. -/
def close (value : Json) : List Frame → Nesting
  | [] => complete value
  | .array elements :: stack => afterElement (value :: elements) stack
  | .object members name :: stack => afterMember ((name, value) :: members) stack

/-- Takes a token where a value may start. -/
def start? (stack : List Frame) : Token → Option Nesting
  | .null => some (close .null stack)
  | .bool value => some (close (.bool value) stack)
  | .integer value => some (close (.integer value) stack)
  | .real literal => some (close (.real literal) stack)
  | .string wording => some (close (.string wording) stack)
  | .openArray => some (atFirstElement stack)
  | .openObject => some (atFirstName stack)
  | _ => none

/-- Takes one token. -/
def step : Nesting → Token → Option Nesting
  | atValue stack, token => start? stack token
  | atFirstElement stack, .closeArray => some (close (.array []) stack)
  -- The list goes on the stack with its first element still to come.
  | atFirstElement stack, token => start? (.array [] :: stack) token
  | afterElement elements stack, .comma => some (atValue (.array elements :: stack))
  | afterElement elements stack, .closeArray => some (close (.array elements.reverse) stack)
  | atFirstName stack, .closeObject => some (close (.object []) stack)
  | atFirstName stack, .string name => some (atColon [] name stack)
  | atName members stack, .string name => some (atColon members name stack)
  | atColon members name stack, .colon => some (atValue (.object members name :: stack))
  | afterMember members stack, .comma => some (atName members stack)
  | afterMember members stack, .closeObject => some (close (.object members.reverse) stack)
  | _, _ => none

/-- Takes tokens one after the other. -/
def run : Nesting → List Token → Option Nesting
  | state, [] => some state
  | state, token :: rest => (state.step token).bind fun next => run next rest

end Nesting

/-- The value of a list of tokens. -/
def ofTokens? (tokens : List Token) : Option Json :=
  match (Nesting.atValue []).run tokens with
  | some (.complete value) => some value
  | _ => none

/-- The value of a text. -/
def parse? (text : String) : Option Json :=
  (Token.scan? (text.toList.map some)).bind ofTokens?

/-- The value of bytes. Bytes that are no text may stand in strings that nobody reads. -/
def ofBytes? (bytes : List UInt8) : Option Json :=
  (Token.scan? (Utf8.symbols bytes)).bind ofTokens?

/-- The bytes of a text have the value of the text. -/
@[simp] theorem ofBytes?_encode (text : String) : ofBytes? (Utf8.encode text) = parse? text := by
  simp [ofBytes?, parse?]

end Json

end Standings
