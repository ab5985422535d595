import Standings.Settings.Environment
import Standings.Store.HostFile

/-! # Password files

Where no password is given, one is looked for in files: in the one that `PGPASSFILE` names, and in
`.pgpass` in the home directory. A file that others may read is passed over. No host is taken to
have a password file, so that all that comes of it are reports about files that cannot be used. -/

namespace Standings

namespace Store

/-- A report about a file that was looked through for a password. -/
structure PasswordFile where
  /-- Its path. -/
  path : String
  /-- What is found there. -/
  file : HostFile
  deriving DecidableEq, Repr

namespace PasswordFile

/-- The directory that is the home where none is set. -/
def usualHome : String := "/root"

/-- The path of the file in a home directory. -/
def inHome (home : String) : String :=
  home ++ (if home = "" ∨ home.toList.getLast? = some '/' then "" else "/") ++ ".pgpass"

/-- The files that an environment asks to look through. -/
def ofEnvironment (env : Environment) : List PasswordFile :=
  ((env "PGPASSFILE").toList ++ [inHome ((env "HOME").getD usualHome)]).map fun path =>
    ⟨path, .ofPath path⟩

/-- Whether only the owner of a file may do anything with it. -/
def isStrict (mode : Nat) : Bool := mode % 0o100 = 0

/-- Whether a report is about a file that is simply not there. -/
def isAbsent (report : PasswordFile) : Bool := report.file = .missing .notFound

/-- What a report says, if there is something to say. -/
def message? (report : PasswordFile) : Option String :=
  match report.file with
  | .missing reason =>
    if report.isAbsent then some "`.pgpass` file not found"
    else some ("Failed to open `.pgpass` file: " ++ reason.describe)
  | .present mode =>
    if isStrict mode then none else some "Ignoring path. Permissions are not strict enough"

/-- The fields of a report. -/
def fields (report : PasswordFile) : List (String × String) :=
  ("path", report.path) :: match report.file with
    | .present mode => [("permissions", String.ofList (Nat.toDigits 8 mode))]
    | .missing _ => []

end PasswordFile

end Store

end Standings
