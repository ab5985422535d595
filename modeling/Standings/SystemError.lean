import Standings.Text.Decimal
import Standings.Text.Quoted

/-! # Errors of the operating system

What the operating system answers if it cannot do what it is asked for: a number, the name of the
kind of error, and words. -/

namespace Standings

/-- An error of the operating system. -/
structure SystemError where
  /-- Its number. -/
  code : Nat
  /-- The name of its kind. -/
  kind : String
  /-- Its words. -/
  message : String
  deriving DecidableEq, Repr

namespace SystemError

/-- There is no such file. -/
def notFound : SystemError := ⟨2, "NotFound", "No such file or directory"⟩

/-- A path goes on behind a file that is no directory. -/
def notDirectory : SystemError := ⟨20, "NotADirectory", "Not a directory"⟩

/-- A path or a part of it is too long. -/
def nameTooLong : SystemError := ⟨36, "InvalidFilename", "File name too long"⟩

/-- Something else listens there. -/
def addressInUse : SystemError := ⟨98, "AddrInUse", "Address already in use"⟩

/-- The sentence that reports an error. -/
def sentence (e : SystemError) : String :=
  e.message ++ " (os error " ++ Decimal.write e.code ++ ")"

/-- An error as an operator sees it. -/
def describe (e : SystemError) : String :=
  "Os \x7b code: " ++ Decimal.write e.code ++ ", kind: " ++ e.kind ++ ", message: "
    ++ Text.quote e.message ++ " \x7d"

end SystemError

end Standings
