import Standings.Gateway.Router
import Standings.Service.LogFilter
import Standings.Settings
import Standings.Store.Migrate
import Standings.Store.SqlLedger

/-! # Starting the service

The service reads its settings, connects to its database, brings the schema up to date and
listens. It writes a line to its log before or after each of these, and stops at the first that
fails; what an operator then sees is the error. -/

namespace Standings

open Calendar

namespace Service

/-- The parts of the program that write to the log at the start. -/
inductive LogSource where
  /-- The part that listens for requests. -/
  | server
  /-- The part that connects to the database. -/
  | connection
  /-- The part that reads the address of the database. -/
  | address
  /-- The part that looks for a password in files. -/
  | passwordFile
  deriving DecidableEq, Repr

/-- The name by which a filter knows a part of the program. -/
def LogSource.target : LogSource → String
  | .server => "leaderboard_engine::api::server"
  | .connection => "leaderboard_engine::db::connection"
  | .address => "sqlx_postgres::options::parse"
  | .passwordFile => "sqlx_postgres::options::pgpass"

namespace LogLine

/-- A line that says what goes on. -/
def info (source : LogSource) (message : String) (fields : List (String × String) := []) :
    LogLine :=
  { target := source.target, message, fields }

/-- The line about an option of the address that is not known. -/
def ignored (option : String × String) : LogLine :=
  { level := .warn
    target := LogSource.address.target
    message := "ignoring unrecognized connect parameter"
    fields := [("key", option.1), ("value", option.2)] }

/-- The line about a file that was looked through for a password. What is simply not there is worth
less than a file that cannot be used. -/
def ofPasswordFile? (report : Store.PasswordFile) : Option LogLine :=
  report.message?.map fun message =>
    { level := if report.isAbsent then .debug else .warn
      target := LogSource.passwordFile.target
      message
      fields := report.fields }

/-- A line as a record. -/
def toJson (line : LogLine) : Json :=
  .fields
    [("level", .text line.level.name),
      ("fields", .fields ((("message", line.message) :: line.fields).map fun (name, value) =>
        (name, .text value)))]

end LogLine

/-- Why the service cannot start. -/
inductive StartError where
  /-- Its settings cannot be used. -/
  | settings (e : SettingsError)
  /-- Its database cannot be used. -/
  | store (fault : Store.Fault)
  /-- Something else listens on its port. -/
  | portTaken
  deriving DecidableEq, Repr

/-- An error as an operator sees it. -/
def StartError.describe : StartError → String
  | .settings e => e.describe
  | .store fault => fault.describe
  | .portTaken => SystemError.addressInUse.describe

/-- Opens the database that settings name in an environment: connects to it and brings its schema up
to date. -/
def openDatabase (env : Environment) (settings : ServerSettings) (server : Option Store.Database) :
    List LogLine × Except Store.Fault Store.Database :=
  let address := Store.Address.read env settings.databaseUrl
  let creating := .info .connection "Creating database connection pool"
    :: address.ignored.map LogLine.ignored
    ++ address.passwordFiles.filterMap LogLine.ofPasswordFile?
  match Store.Database.connect address server with
  | .error fault => (creating, .error fault)
  | .ok database =>
    let created :=
      creating ++ [.info .connection "Database connection pool created successfully"]
    -- The schema is brought up to date before anything reads it.
    match database.migrate with
    | .error fault => (created, .error fault)
    | .ok database =>
      let zone := settings.ranking.zone.describe
      (created ++ [.info .connection "Ledger migrations applied",
          .info .server "Leaderboard windows zone" [("zone", zone)]],
        .ok database)

/-- The gateway of a service with such settings, at an instant. -/
def gateway (settings : ServerSettings) (now : Instant) : Gateway Store.Database :=
  { engine :=
      { source := Store.Database.source settings.ranking.ledgerMaxRetries
        clock := ⟨now, settings.ranking.zone⟩
        limits := settings.ranking.limits }
    key := .ofSecret settings.jwtSecret
    now := now.second }

/-- Starts the service up to the point where it serves. -/
def start (env : Environment) (server : Option Store.Database) (portTaken : Bool) :
    List LogLine × Except StartError (ServerSettings × Store.Database) :=
  let starting : List LogLine := [.info .server "Starting leaderboard ranking server"]
  match ServerSettings.read env with
  | .error e => (starting, .error (.settings e))
  | .ok settings =>
    match openDatabase env settings server with
    | (lines, .error fault) => (starting ++ lines, .error (.store fault))
    | (lines, .ok database) =>
      let listening := "Server listening on 0.0.0.0:" ++ Decimal.write settings.port.toNat
      let lines := starting ++ lines ++ [.info .server listening]
      if portTaken then (lines, .error .portTaken) else (lines, .ok (settings, database))

/-- The lines of the log that the settings let through. -/
def shownLines (env : Environment) (lines : List LogLine) : List LogLine :=
  (LogFilter.ofSetting (env "RUST_LOG")).shown lines

end Service

end Standings
