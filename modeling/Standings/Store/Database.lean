import Standings.Calendar.Instant
import Standings.Store.Address
import Standings.Text.Hex

/-! # Databases

A database as the service meets it: what its server answers to a login, to a health check, to the
queries of ledgers one after the other, and to a migration; and what the service has sent to it.
`Database.connect` opens the connection, `Database.ask` sends one query. -/

namespace Standings

open Calendar

namespace Store

/-- A row of a ledger query: a user and a score, either of which may be null. -/
abbrev Row := Option Int64 × Option Int64

/-- What the server answers to a query. -/
inductive Reply where
  /-- Rows. -/
  | rows (rows : List Row)
  /-- An error. -/
  | refused (e : ServerError)
  /-- Nothing: the server hangs up, and the next query has to connect anew. -/
  | dropped
  deriving DecidableEq, Repr

/-- A value sent with a query. -/
inductive Param where
  /-- A text. -/
  | text (s : String)
  /-- An instant, in microseconds from 2000-01-01T00:00:00Z. -/
  | instant (micros : Int)
  deriving DecidableEq, Repr

namespace Param

/-- The second from which the database counts: 2000-01-01T00:00:00Z. -/
def epoch : Int := 946684800

/-- An instant as the database sees it. What is less than a microsecond is cut off towards the
database's epoch, and a leap second counts as the second behind it. -/
def ofInstant (t : Instant) : Param :=
  .instant (((t.second - epoch) * 1000000000 + t.nano).tdiv 1000)

/-- The instant of so many microseconds from the database's epoch. -/
def instant? (micros : Int) : Option Instant :=
  Instant.of? (epoch + micros / 1000000) ((micros % 1000000).toNat * 1000)

end Param

/-- A query as it is sent. -/
structure Statement where
  /-- Its text. -/
  sql : String
  /-- Its values. -/
  params : List Param
  deriving DecidableEq, Repr

/-- A migration that the database has on record. -/
structure AppliedMigration where
  /-- Its number. -/
  version : Int
  /-- The checksum of its text. -/
  checksum : List UInt8
  /-- Whether it has run to its end. -/
  success : Bool
  deriving DecidableEq, Repr

/-- A migration that the service knows. -/
structure Migration where
  /-- Its number. -/
  version : Int
  /-- What it is about. -/
  description : String
  /-- The checksum of its text. -/
  checksum : List UInt8
  deriving DecidableEq, Repr

/-- A database server, with what has been sent to it. -/
structure Database where
  /-- The error with which every login is refused. -/
  loginError : Option ServerError := none
  /-- The error that a health check gets. -/
  healthError : Option ServerError := none
  /-- The error that running a migration gets. -/
  migrationError : Option ServerError := none
  /-- The answers to ledger queries, in order; the last one repeats, and without any there are no
  rows. -/
  replies : List Reply := []
  /-- The migrations on record, lowest number first. -/
  applied : List AppliedMigration := []
  /-- The ledger queries that have been sent, in order. -/
  sent : List Statement := []
  /-- The migrations that the service has put on record, in order. -/
  recorded : List Migration := []
  deriving DecidableEq, Repr

namespace Database

/-- The fault of a service that cannot connect. -/
def connectionFault (cause : QueryFault) : Fault :=
  .connection ("Failed to create pool: " ++ cause.message)

/-- The server's codes for a login that is refused only for now: there are too many connections, or
the server is starting up. -/
def busyCodes : List String := ["53300", "57P03"]

/-- Why a login is refused. A server that is busy is asked again until no time is left. -/
def loginFault (e : ServerError) : QueryFault :=
  if busyCodes.contains e.code then .poolTimedOut else e.fault

/-- Connects to the database at an address; `none` stands for no server there. -/
def connect (address : Address) (server : Option Database) : Except Fault Database :=
  match address.fault? with
  | some cause => .error (connectionFault cause)
  | none =>
    match server with
    -- Nothing answers, however often it is tried.
    | none => .error (connectionFault .poolTimedOut)
    | some database =>
      match database.loginError with
      | some e => .error (connectionFault (loginFault e))
      | none => .ok database

/-- Asks the server whether it is well. -/
def health (database : Database) : Except Fault Unit :=
  match database.healthError with
  | some e => .error (.query e.fault)
  | none => .ok ()

/-- The next reply and the replies that come after it. -/
def nextReply : List Reply → Reply × List Reply
  | [] => (.rows [], [])
  -- The last reply is never used up.
  | [last] => (last, [last])
  | reply :: rest => (reply, rest)

/-- Sends a query. -/
def ask (database : Database) (statement : Statement) : Reply × Database :=
  let (reply, replies) := nextReply database.replies
  (reply, { database with replies, sent := database.sent ++ [statement] })

end Database

end Store

end Standings
