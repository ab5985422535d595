import Standings.Text.Decimal
import Standings.Text.Quoted

/-! # Faults of the database

What can go wrong between the service and its database: with the connection, with a query, with
bringing the schema up to date, or with all attempts of a query that was tried again. `isTransient`
says which faults may be gone at the next attempt. A `Failure` is a fault that is reported, or the
end of whoever would have reported one. -/

namespace Standings

namespace Store

/-- What can go wrong with a query. -/
inductive QueryFault where
  /-- The server has refused it, with its code for the reason. -/
  | server (code : Option String) (text : String)
  /-- The server could not be talked to. -/
  | io (text : String)
  /-- No connection has become free in time. -/
  | poolTimedOut
  /-- The connections have been closed for good. -/
  | poolClosed
  /-- The worker that talks to the server has crashed. -/
  | workerCrashed
  /-- A row was expected and there is none. -/
  | rowNotFound
  /-- A column was expected and there is none. -/
  | columnNotFound (name : String)
  /-- A column holds null where a value was expected. -/
  | unexpectedNull (column : Nat)
  /-- The server's answer cannot be understood. -/
  | protocol (text : String)
  /-- The address of the database cannot be understood. -/
  | configuration (text : String)
  deriving DecidableEq, Repr

namespace QueryFault

/-- The sentence that reports a query's fault. -/
def message : QueryFault → String
  | .server _ text => "error returned from database: " ++ text
  | .io text => "error communicating with database: " ++ text
  | .poolTimedOut => "pool timed out while waiting for an open connection"
  | .poolClosed => "attempted to acquire a connection on a closed pool"
  | .workerCrashed => "attempted to communicate with a crashed background worker"
  | .rowNotFound => "no rows returned by a query that expected to return at least one row"
  | .columnNotFound name => "no column found for name: " ++ name
  | .unexpectedNull column =>
    "error occurred while decoding column " ++ Decimal.write column
      ++ ": unexpected null; try decoding as an `Option`"
  | .protocol text => "encountered unexpected or invalid data: " ++ text
  | .configuration text => "error with configuration: " ++ text

/-- The server's codes for a query that has failed only because of others at the same time:
serialization failure and deadlock. -/
def contentionCodes : List String := ["40001", "40P01"]

/-- Whether the query may succeed if it is tried again. -/
def isTransient : QueryFault → Bool
  | .server (some code) _ => contentionCodes.contains code
  | .io _ => true
  | .poolTimedOut => true
  | _ => false

end QueryFault

/-- An error that the server reports. -/
structure ServerError where
  /-- The server's code for the reason. -/
  code : String
  /-- The server's words. -/
  text : String
  deriving DecidableEq, Repr

namespace ServerError

/-- The fault of a query that the server refuses. -/
def fault (e : ServerError) : QueryFault := .server (some e.code) e.text

/-- What an error may say besides; the server says none of it. -/
def details : List String :=
  ["detail", "hint", "position", "where", "schema", "table", "column", "data_type", "constraint",
    "file", "line", "routine"]

/-- An error with all that it may say, as an operator sees it. -/
def describe (e : ServerError) : String :=
  "Database(PgDatabaseError \x7b severity: Error, code: " ++ Text.quote e.code ++ ", message: "
    ++ Text.quote e.text ++ String.join (details.map fun name => ", " ++ name ++ ": None")
    ++ " \x7d)"

end ServerError

/-- What can go wrong when the schema is brought up to date. -/
inductive MigrationFault where
  /-- A migration has been applied in part. -/
  | dirty (version : Int)
  /-- A migration has been applied that is not known. -/
  | missing (version : Int)
  /-- A migration has been applied with another text. -/
  | modified (version : Int)
  /-- A migration could not be run. -/
  | execution (version : Int) (cause : ServerError)
  deriving DecidableEq, Repr

namespace MigrationFault

/-- The sentence that reports a migration's fault. -/
def message : MigrationFault → String
  | .dirty version =>
    "migration " ++ Decimal.write version
      ++ " is partially applied; fix and remove row from `_sqlx_migrations` table"
  | .missing version =>
    "migration " ++ Decimal.write version
      ++ " was previously applied but is missing in the resolved migrations"
  | .modified version =>
    "migration " ++ Decimal.write version ++ " was previously applied but has been modified"
  | .execution version cause =>
    "while executing migration " ++ Decimal.write version ++ ": " ++ cause.fault.message

/-- A migration's fault as an operator sees it when the service cannot start. -/
def describe : MigrationFault → String
  | .dirty version => "Dirty(" ++ Decimal.write version ++ ")"
  | .missing version => "VersionMissing(" ++ Decimal.write version ++ ")"
  | .modified version => "VersionMismatch(" ++ Decimal.write version ++ ")"
  | .execution version cause =>
    "ExecuteMigration(" ++ cause.describe ++ ", " ++ Decimal.write version ++ ")"

end MigrationFault

/-- What can go wrong with the database. -/
inductive Fault where
  /-- There is no connection. -/
  | connection (text : String)
  /-- A query has failed. -/
  | query (cause : QueryFault)
  /-- The schema could not be brought up to date. -/
  | migration (cause : MigrationFault)
  /-- A query has failed as often as it may be tried; the text reports its last fault. -/
  | retryLimit (attempts : UInt8) (last : String)
  deriving DecidableEq, Repr

namespace Fault

/-- The sentence that reports a fault. -/
def message : Fault → String
  | .connection text => "Database connection error: " ++ text
  | .query cause => "Query execution error: " ++ cause.message
  | .migration cause => "Migration error: " ++ cause.message
  | .retryLimit attempts last =>
    "Retry limit exceeded after " ++ Decimal.write attempts.toNat ++ " attempts: " ++ last

/-- The name of the kind of a fault. -/
def kind : Fault → String
  | .connection _ => "ConnectionError"
  | .query _ => "QueryError"
  | .migration _ => "MigrationError"
  | .retryLimit .. => "RetryLimitExceeded"

/-- A fault as an operator sees it when the service cannot start. -/
def describe (fault : Fault) : String :=
  fault.kind ++ match fault with
    | .connection text => "(" ++ Text.quote text ++ ")"
    | .query cause => "(" ++ Text.quote cause.message ++ ")"
    | .migration cause => "(" ++ cause.describe ++ ")"
    | .retryLimit attempts last =>
      " \x7b attempts: " ++ Decimal.write attempts.toNat ++ ", last_error: " ++ Text.quote last
        ++ " \x7d"

/-- Whether the fault may be gone at the next attempt. -/
def isTransient : Fault → Bool
  | .connection _ => true
  | .query cause => cause.isTransient
  | _ => false

end Fault

/-- Why there is no answer from the database. -/
inductive Failure where
  /-- Something has gone wrong that is reported. -/
  | fault (fault : Fault)
  /-- The arithmetic for the next attempt has run over, and nothing is reported. -/
  | overflow
  deriving DecidableEq, Repr

end Store

end Standings
