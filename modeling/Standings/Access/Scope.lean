import Standings.Text.Split

/-! # Scopes

A scope names what a bearer may do: a resource and an action with a colon between them. In a
granted scope either part may be a star, which stands for any; a star alone grants everything. An
empty requirement is met by everyone. -/

namespace Standings

namespace Access

namespace Scope

/-- The scope that grants everything, and the part that stands for any. -/
def wildcard : String := "*"

/-- The scope that reading rankings requires. -/
def rankingRead : String := "ranking:read"

/-- Whether a part of a granted scope covers a part of a required one. -/
def partMatches (required granted : List Char) : Bool :=
  granted = wildcard.toList || granted = required

/-- Whether a granted scope covers a required one. -/
def covers (required granted : String) : Bool :=
  granted = wildcard || granted = required ||
    match Text.cutAtFirst? ':' required.toList, Text.cutAtFirst? ':' granted.toList with
    | some (resource, action), some (grantedResource, grantedAction) =>
      partMatches resource grantedResource && partMatches action grantedAction
    -- Without a colon a scope has no parts, and only the whole of it counts.
    | _, _ => false

end Scope

/-- Whether granted scopes meet a requirement. -/
def allow (required : String) (granted : List String) : Bool :=
  required = "" || granted.any (Scope.covers required)

end Access

end Standings
