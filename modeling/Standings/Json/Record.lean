import Standings.Json.Value

/-! # Records in JSON

A record is an object whose members are its fields, in any order, or a list of all its fields in
order. Members nobody knows are passed over; a field that occurs twice makes the record
unreadable, and so does a name that is no text. A field that may be absent may also be null. A
choice between names is one of the names, or an object whose only member is the name with null. -/

namespace Standings

namespace Json

/-- The values of a name among members: `some none` if it does not occur, `none` if it occurs more
than once. -/
def member? (members : List (Wording × Json)) (name : String) : Option (Option Json) :=
  match members.filter (·.1 == .text name) with
  | [] => some none
  | [(_, value)] => some (some value)
  | _ => none

/-- The fields of a record, in the order of `names`. -/
def record? (names : List String) : Json → Option (List (Option Json))
  | .array elements =>
    if elements.length = names.length then some (elements.map some) else none
  | .object members =>
    if members.all (·.1.text?.isSome) then names.mapM (member? members) else none
  | _ => none

/-- Reads a field that has to be there. -/
def required (read : Json → Option α) (field : Option Json) : Option α :=
  field.bind read

/-- Reads a field that may be absent or null. -/
def optional (read : Json → Option α) : Option Json → Option (Option α)
  | none => some none
  | some .null => some none
  | some value => (read value).map some

/-- Reads a field that has a value of its own if it is absent. -/
def withDefault (default : α) (read : Json → Option α) : Option Json → Option α
  | none => some default
  | some value => read value

/-- Reads a string. -/
def text? : Json → Option String
  | .string wording => wording.text?
  | _ => none

/-- Reads a truth value. -/
def bool? : Json → Option Bool
  | .bool value => some value
  | _ => none

/-- Reads an integer from `least` to `greatest`. -/
def integer? (least greatest : Int) : Json → Option Int
  | .integer value => if least ≤ value ∧ value ≤ greatest then some value else none
  | _ => none

/-- Reads a signed 64-bit integer. -/
def int64? (j : Json) : Option Int64 :=
  (j.integer? Int64.minValue.toInt Int64.maxValue.toInt).map Int64.ofInt

/-- Reads a signed 32-bit integer. -/
def int32? (j : Json) : Option Int32 :=
  (j.integer? Int32.minValue.toInt Int32.maxValue.toInt).map Int32.ofInt

/-- Reads a natural number below 2^64. -/
def count? (j : Json) : Option Nat :=
  (j.integer? 0 (UInt64.size - 1 : Nat)).map Int.toNat

/-- Reads a list. -/
def list? (read : Json → Option α) : Json → Option (List α)
  | .array elements => elements.mapM read
  | _ => none

/-- Reads one of several names. -/
def choice? (choices : List (String × α)) : Json → Option α
  | .string (.text name) => choices.lookup name
  | .object [(.text name, .null)] => choices.lookup name
  | _ => none

/-- A value that may be absent, written as null if it is. -/
def ofOption (write : α → Json) : Option α → Json
  | none => .null
  | some value => write value

end Json

end Standings
