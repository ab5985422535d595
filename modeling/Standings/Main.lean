import Standings.Service.Startup
import Standings.Settings.DotEnv

/-! # Command line

Starts the service from the environment and the file `.env` in the working directory. The log goes
to standard output, one JSON record to a line; an error goes to standard error and makes the exit
code 1. No client for a database server is built in, so the start ends where the service would
connect. -/

namespace Standings

/-- The variables that the service asks for. -/
def settingNames : List String :=
  ["DATABASE_URL", "JWT_SECRET", "SECRET_KEY", "PORT", "RANKING_DEFAULT_PAGE_SIZE",
    "RANKING_MAX_PAGE_SIZE", "RANKING_TIME_ZONE", "RANKING_UTC_OFFSET", "LEDGER_MAX_RETRIES",
    "RUST_LOG", "PGHOSTADDR", "PGHOST", "PGPORT", "PGPASSWORD", "PGPASSFILE", "HOME"]

/-- The variables of the process among some names. -/
def processVariables (names : List String) : IO (List (String × String)) :=
  names.filterMapM fun name => return (← IO.getEnv name).map fun value => (name, value)

/-- The text of a file; none if it cannot be read. -/
def readFile? (path : String) : IO (Option String) := do
  try return some (← IO.FS.readFile path)
  catch _ => return none

end Standings

open Standings in
/-- Starts the service. -/
def main : IO UInt32 := do
  let file ← readFile? ".env"
  let names := settingNames ++ DotEnv.mentioned (file.getD "")
  let bindings ← processVariables names.eraseDups
  let env := Environment.ofBindings (DotEnv.load bindings (file.getD ""))
  let (lines, result) := Service.start env none false
  for line in Service.shownLines env lines do
    IO.println line.toJson.write
  match result with
  | .ok _ => return 0
  | .error e =>
    IO.eprintln ("Error: " ++ e.describe)
    return 1
