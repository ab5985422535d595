import Standings.Json.Magnitude
import Standings.Json.Value

/-! # Lapses

A reader that passes over a value takes it as the grammar has it. One that makes sense of it also
needs the strings to be text, the numbers to be such as can be held, and lists and objects not to
be nested too deeply. `Json.lapse?` says where it gives up: at the value's last character, or
inside it. A lapse at the end of the last element is one at the end of the list, and any other is
inside. -/

namespace Standings

namespace Json

/-- How deep lists and objects may be nested in a member of a record. -/
def nestingLimit : Nat := 126

mutual

/-- Where a reader that has to make sense of a value gives up, if it does. Lists and objects may
be nested `depth` deep. -/
def lapse? (depth : Nat) : Json → Option Lapse
  | .null => none
  | .bool _ => none
  | .integer value => Magnitude.lapse? (Decimal.ofInt value)
  | .real literal => Magnitude.lapse? literal.toList
  | .string (.text _) => none
  | .string (.unreadable lapse) => some lapse
  | .array elements => if depth = 0 then some .inside else elementsLapse? (depth - 1) elements
  | .object members => if depth = 0 then some .inside else membersLapse? (depth - 1) members

/-- Where a reader of the elements of a list gives up. -/
def elementsLapse? (depth : Nat) : List Json → Option Lapse
  | [] => none
  | element :: rest =>
    match lapse? depth element with
    | none => elementsLapse? depth rest
    | some .atEnd => some (if rest.isEmpty then .atEnd else .inside)
    | some .inside => some .inside

/-- Where a reader of the members of an object gives up. A name that is no text leaves its value
unread. -/
def membersLapse? (depth : Nat) : List (Wording × Json) → Option Lapse
  | [] => none
  | (.unreadable _, _) :: _ => some .inside
  | (.text _, value) :: rest =>
    match lapse? depth value with
    | none => membersLapse? depth rest
    | some .atEnd => some (if rest.isEmpty then .atEnd else .inside)
    | some .inside => some .inside

end

/-- Whether a reader makes sense of a member of a record. -/
def isSound (j : Json) : Bool :=
  match j.lapse? nestingLimit with
  | none => true
  | some _ => false

/-- Whether a reader that gives up on a member of a record can go on behind it. -/
def isSkippable (j : Json) : Bool :=
  match j.lapse? nestingLimit with
  | some .inside => false
  | _ => true

end Json

end Standings
