import Standings.Calendar.Zone
import Standings.Page.Arguments
import Standings.Settings.Environment
import Standings.Text.Blank
import Standings.Text.Quoted

/-! # Settings

The service is set up by environment variables. Most of them may be absent, and then so is their
value if it is blank: a default stands in. A value is read without the blanks around it, but an
error shows it as it was given. The database and the secret have to be there; their texts are
taken as they are, also when they are empty.

The checks run in a fixed order, and the first that fails is reported. -/

namespace Standings

open Calendar

/-- Why the settings cannot be used. -/
inductive SettingsError where
  /-- A variable has to be there. -/
  | missing (name : String)
  /-- A variable's value cannot be read. -/
  | invalid (name value : String)
  /-- Two variables may not both be there. -/
  | conflict (first second : String)
  deriving DecidableEq, Repr

namespace SettingsError

/-- The sentence that reports an error. -/
def message : SettingsError → String
  | .missing name => name ++ " environment variable not set"
  | .invalid name value => "invalid value for " ++ name ++ ": " ++ Text.quote value
  | .conflict first second => first ++ " and " ++ second ++ " are mutually exclusive"

/-- The name of the kind of an error. -/
def kind : SettingsError → String
  | .missing _ => "Missing"
  | .invalid .. => "Invalid"
  | .conflict .. => "Conflict"

/-- An error as an operator sees it when the service cannot start. -/
def describe (e : SettingsError) : String :=
  e.kind ++ match e with
    | .missing name => "(" ++ Text.quote name ++ ")"
    | .invalid name value =>
      " \x7b name: " ++ Text.quote name ++ ", value: " ++ Text.quote value ++ " \x7d"
    | .conflict first second => "(" ++ Text.quote first ++ ", " ++ Text.quote second ++ ")"

end SettingsError

namespace Environment

/-- Reads a variable that may be absent. -/
def optional (env : Environment) (name : String) (read : List Char → Option α) :
    Except SettingsError (Option α) :=
  match env name with
  | none => .ok none
  | some value =>
    if Text.trim value.toList = [] then .ok none
    -- An error shows the value with its blanks.
    else match read (Text.trim value.toList) with
      | some result => .ok (some result)
      | none => .error (.invalid name value)

/-- Reads a variable that has a default. -/
def withDefault (env : Environment) (name : String) (read : List Char → Option α) (default : α) :
    Except SettingsError α := do
  return (← env.optional name read).getD default

end Environment

/-- How rankings are computed. -/
structure RankingSettings where
  /-- Where days and weeks begin. -/
  zone : Zone := .hostLocal
  /-- The sizes of pages. -/
  limits : Page.Limits := {}
  /-- How often a query of the ledgers is tried. -/
  ledgerMaxRetries : UInt8 := 3
  deriving DecidableEq, Repr

namespace RankingSettings

/-- The sizes of pages. The default size may not exceed the greatest, also if neither is set. -/
def readLimits (env : Environment) : Except SettingsError Page.Limits := do
  let usual : Page.Limits := {}
  let defaultSize ← env.withDefault "RANKING_DEFAULT_PAGE_SIZE"
    (fun text => (Decimal.readUInt64 text).toOption) usual.defaultSize
  let maxSize ← env.withDefault "RANKING_MAX_PAGE_SIZE"
    (fun text => (Decimal.readUInt64 text).toOption) usual.maxSize
  if maxSize < defaultSize then
    throw (.invalid "RANKING_DEFAULT_PAGE_SIZE" (Decimal.write defaultSize.toNat))
  return ⟨defaultSize, maxSize⟩

/-- The zone: one of the places or a fixed offset, but not both. -/
def readZone (places : String → Option Zone) (env : Environment) : Except SettingsError Zone := do
  -- Both values are read before it is asked whether both may be there.
  let place ← env.optional "RANKING_TIME_ZONE" fun text => places (String.ofList text)
  let offset ← env.optional "RANKING_UTC_OFFSET" Offset.parse?
  match place, offset with
  | some _, some _ => throw (.conflict "RANKING_TIME_ZONE" "RANKING_UTC_OFFSET")
  | some zone, none => return zone
  | none, some offset => return .fixed offset
  | none, none => return .hostLocal

/-- Reads the settings, where a time zone database says what names a place. -/
def readWith (places : String → Option Zone) (env : Environment) :
    Except SettingsError RankingSettings := do
  let usual : RankingSettings := {}
  let limits ← readLimits env
  let zone ← readZone places env
  let ledgerMaxRetries ← env.withDefault "LEDGER_MAX_RETRIES"
    (fun text => (Decimal.readUInt8 text).toOption) usual.ledgerMaxRetries
  return { zone, limits, ledgerMaxRetries }

/-- Reads the settings. -/
def read (env : Environment) : Except SettingsError RankingSettings :=
  readWith Zone.ofName? env

end RankingSettings

/-- How the service runs. -/
structure ServerSettings where
  /-- The address of the database. -/
  databaseUrl : String
  /-- The secret under which tokens are signed. -/
  jwtSecret : String
  /-- The port on which the service listens. -/
  port : UInt16
  /-- How rankings are computed. -/
  ranking : RankingSettings
  deriving DecidableEq, Repr

namespace ServerSettings

/-- The port on which the service listens if none is set. -/
def usualPort : UInt16 := 3000

/-- Reads a variable that has to be there. -/
def require (value : Option String) (name : String) : Except SettingsError String :=
  match value with
  | some value => .ok value
  | none => .error (.missing name)

/-- Reads the settings, where a time zone database says what names a place. A second name of the
secret counts if the first is absent. -/
def readWith (places : String → Option Zone) (env : Environment) :
    Except SettingsError ServerSettings := do
  let databaseUrl ← require (env "DATABASE_URL") "DATABASE_URL"
  let jwtSecret ← require ((env "JWT_SECRET").or (env "SECRET_KEY")) "JWT_SECRET"
  let port ← env.withDefault "PORT" (fun text => (Decimal.readUInt16 text).toOption) usualPort
  let ranking ← RankingSettings.readWith places env
  return { databaseUrl, jwtSecret, port, ranking }

/-- Reads the settings. -/
def read (env : Environment) : Except SettingsError ServerSettings :=
  readWith Zone.ofName? env

end ServerSettings

end Standings
