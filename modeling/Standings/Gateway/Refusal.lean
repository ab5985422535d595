import Standings.Access.Token
import Standings.Ranking

/-! # Refusals

What the gateway answers instead of a page: a kind of refusal, which fixes the status and the name
that the answer carries, and a message. -/

namespace Standings

namespace Gateway

/-- The kinds of refusals. -/
inductive RefusalKind where
  /-- The query string cannot be read. -/
  | badRequest
  /-- The caller is not known. -/
  | unauthorized
  /-- The caller may not do this. -/
  | forbidden
  /-- The page arguments are not valid. -/
  | invalidInput
  /-- The source of scores has failed. -/
  | sourceFailed
  deriving DecidableEq, Repr

namespace RefusalKind

/-- The name that an answer carries. -/
def name : RefusalKind → String
  | .badRequest => "bad_request"
  | .unauthorized => "unauthorized"
  | .forbidden => "forbidden"
  | .invalidInput => "invalid_input"
  | .sourceFailed => "upstream_error"

/-- The status of an answer. -/
def status : RefusalKind → Nat
  | .badRequest => 400
  | .unauthorized => 401
  | .forbidden => 403
  | .invalidInput => 400
  | .sourceFailed => 502

/-- The words before the message where a refusal is reported as a sentence. -/
def label : RefusalKind → String
  | .badRequest => "Bad request"
  | .unauthorized => "Unauthorized"
  | .forbidden => "Forbidden"
  | .invalidInput => "Invalid input"
  | .sourceFailed => "Upstream failure"

end RefusalKind

/-- A refusal. -/
structure Refusal where
  /-- What kind of refusal it is. -/
  kind : RefusalKind
  /-- What the caller is told. -/
  message : String
  deriving DecidableEq, Repr

namespace Refusal

/-- The sentence that reports a refusal. -/
def report (r : Refusal) : String := r.kind.label ++ ": " ++ r.message

/-- A refusal as a record. -/
def toJson (r : Refusal) : Json :=
  .fields [("error", .text r.kind.name), ("message", .text r.message)]

/-- The refusal of a caller whose credentials are denied. -/
def ofDenial (denial : Access.Denial) : Refusal := ⟨.unauthorized, denial.message⟩

/-- The refusal of a caller who lacks a scope. -/
def missingScope (scope : String) : Refusal :=
  ⟨.forbidden, "Missing required scope '" ++ scope ++ "'"⟩

/-- The refusal of page arguments. -/
def ofArguments (cause : Page.ArgumentError) : Refusal := ⟨.invalidInput, cause.message⟩

/-- The refusal when the source of scores has failed. -/
def ofFault (fault : Store.Fault) : Refusal := ⟨.sourceFailed, fault.message⟩

end Refusal

end Gateway

end Standings
