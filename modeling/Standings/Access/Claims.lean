/-! # Claims

What a token says about its bearer. -/

namespace Standings

namespace Access

/-- The contents of a token. -/
structure Claims where
  /-- Who bears the token. -/
  subject : String
  /-- What the bearer may do. -/
  scopes : List String
  /-- The second from 1970-01-01T00:00:00Z after which the token is void. -/
  expiry : Int64
  deriving DecidableEq, Repr

/-- A caller whose token has been accepted. -/
structure Principal where
  /-- Who calls. -/
  subject : String
  /-- What the caller may do. -/
  scopes : List String
  deriving DecidableEq, Repr

end Access

end Standings
