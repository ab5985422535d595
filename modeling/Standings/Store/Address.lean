import Standings.Store.Fault
import Standings.Store.PasswordFile
import Standings.Text.Url

/-! # Addresses of databases

The address of a database is a URL: `postgres://user@host:port/name?option=value`. What it leaves
open is taken from the environment. `Address.read` finds out where the server is, or why the address
cannot be used: it is no URL, a part of it is no text, or an option has no such value. Options that
are not known are passed over, and `read` tells which; it stops at the first fault.

A host that is a directory asks for a socket in that directory. `Address.fault?` tells in advance
why no connection can be made: no such socket is there. -/

namespace Standings

namespace Store

/-- Where a server is, and how to log in to it. -/
structure Endpoint where
  /-- The directory of its socket, if one has been asked for. -/
  socket : Option String := none
  /-- Its host. -/
  host : String
  /-- Its port. -/
  port : Nat
  /-- Whether there is a password. -/
  hasPassword : Bool
  deriving DecidableEq, Repr

namespace Endpoint

/-- The endpoint that an environment names. -/
def ofEnvironment (env : Environment) : Endpoint :=
  { host := ((env "PGHOSTADDR").or (env "PGHOST")).getD "localhost"
    port := (((env "PGPORT").bind fun text =>
      (Decimal.readUInt16 text.toList).toOption).map UInt16.toNat).getD 5432
    hasPassword := (env "PGPASSWORD").isSome }

/-- The directory of the server's socket, if it is reached through one: the one that has been asked
for, or a host that starts with a slash. -/
def directory (endpoint : Endpoint) : Option String :=
  endpoint.socket.or (if endpoint.host.toList.head? = some '/' then some endpoint.host else none)

end Endpoint

/-- What an address says. -/
structure Address where
  /-- The options that are not known, with their values, as far as the address has been read. -/
  ignored : List (String × String)
  /-- Where the server is, or why the address cannot be used. -/
  endpoint : Except QueryFault Endpoint
  /-- The files that are looked through for a password. -/
  passwordFiles : List PasswordFile := []

namespace Address

/-- A part of an address that cannot be used. -/
def unusable (reason : String) : Except QueryFault α := .error (.configuration reason)

/-- The text of a part with percent signs. -/
def textOf (part : List Char) : Except QueryFault String :=
  let bytes := FormUrlencoded.percentDecode (Utf8.encode (String.ofList part))
  match Utf8.firstBreak? bytes with
  | some place => unusable place.message
  | none => .ok (Utf8.decodeLossy bytes)

/-- Takes the host of a URL, if it has one: a host that starts with a slash is the directory of a
socket. -/
def takeHost (endpoint : Endpoint) (host : List Char) : Except QueryFault Endpoint :=
  let bytes := FormUrlencoded.percentDecode (Utf8.encode (String.ofList host))
  if bytes.head? = some (Utf8.ascii '/') then do
    let directory ← textOf host
    return { endpoint with socket := some directory }
  else if host = [] then .ok endpoint
  else .ok { endpoint with host := String.ofList host }

/-- Takes the parts of a URL before its query. -/
def takeParts (endpoint : Endpoint) (url : Url) : Except QueryFault Endpoint := do
  let endpoint ← takeHost endpoint url.host
  let _ ← textOf url.user
  let _ ← textOf url.password
  let _ ← textOf (url.path.dropWhile (· = '/'))
  return { endpoint with
    port := url.port.getD endpoint.port
    hasPassword := endpoint.hasPassword || !url.password.isEmpty }

/-- The ways in which a connection may be encrypted. -/
def encryptionModes : List String :=
  ["disable", "allow", "prefer", "require", "verify-ca", "verify-full"]

/-- The options whose values are taken as they are. -/
def freeOptions : List String :=
  ["sslrootcert", "ssl-root-cert", "ssl-ca", "sslcert", "ssl-cert", "sslkey", "ssl-key", "dbname",
    "user", "application_name", "options"]

/-- The options that say something about the endpoint, or whose values are checked. -/
def namedOptions : List String :=
  ["sslmode", "ssl-mode", "statement-cache-capacity", "host", "hostaddr", "port", "password"]

/-- Whether an option is known. -/
def isKnown (name : String) : Bool :=
  namedOptions.contains name || freeOptions.contains name
    || "options[".toList.isPrefixOf name.toList

/-- Takes a known option. -/
def takeOption (endpoint : Endpoint) (name value : String) : Except QueryFault Endpoint :=
  if name = "sslmode" ∨ name = "ssl-mode" then
    if encryptionModes.contains value.toLower then .ok endpoint
    else
      unusable (QueryFault.message
        (.configuration ("unknown value " ++ Text.quote value ++ " for `ssl_mode`")))
  else if name = "statement-cache-capacity" then
    match Decimal.readUInt64 value.toList with
    | .ok _ => .ok endpoint
    | .error fault => unusable fault.message
  else if name = "host" then
    if value.toList.head? = some '/' then .ok { endpoint with socket := some value }
    else .ok { endpoint with host := value }
  else if name = "hostaddr" then
    if Ip.isAddress value.toList then .ok { endpoint with host := value }
    else unusable "invalid IP address syntax"
  else if name = "port" then
    match Decimal.readUInt16 value.toList with
    | .ok port => .ok { endpoint with port := port.toNat }
    | .error fault => unusable fault.message
  else if name = "password" then .ok { endpoint with hasPassword := true }
  else .ok endpoint

/-- Takes options one after the other, up to the first that cannot be used. -/
def takeOptions (endpoint : Endpoint) : List (String × String) → Address
  | [] => ⟨[], .ok endpoint, []⟩
  | (name, value) :: rest =>
    if isKnown name then
      match takeOption endpoint name value with
      | .ok endpoint => takeOptions endpoint rest
      | .error fault => ⟨[], .error fault, []⟩
    else
      let address := takeOptions endpoint rest
      { address with ignored := (name, value) :: address.ignored }

/-- Looks for a password in files, if the address can be used and there is no password. -/
def lookForPassword (env : Environment) (address : Address) : Address :=
  match address.endpoint with
  | .ok endpoint =>
    if endpoint.hasPassword then address
    else { address with passwordFiles := PasswordFile.ofEnvironment env }
  | .error _ => address

/-- Reads an address in an environment. -/
def read (env : Environment) (text : String) : Address :=
  match Url.parse? text with
  | .error fault => ⟨[], unusable fault.message, []⟩
  | .ok url =>
    match takeParts (.ofEnvironment env) url with
    | .error fault => ⟨[], .error fault, []⟩
    | .ok endpoint =>
      lookForPassword env
        (takeOptions endpoint (FormUrlencoded.pairs (Utf8.encode (String.ofList url.query))))

/-- The longest path of a socket, in bytes. -/
def longestPath : Nat := 107

/-- Why a socket cannot be reached: its path is none, is too long, or names no socket. -/
def socketFault (directory : String) (port : Nat) : QueryFault :=
  let path := directory ++ "/.s.PGSQL." ++ Decimal.write port
  if path.toList.contains '\x00' then .io "paths must not contain interior null bytes"
  else if longestPath < path.utf8ByteSize then .io "path must be shorter than SUN_LEN"
  else
    match HostFile.ofPath path with
    | .missing reason => .io reason.sentence
    | .present _ => .io SystemError.notFound.sentence

/-- Why no connection can be made to an address, if that is known beforehand. -/
def fault? (address : Address) : Option QueryFault :=
  match address.endpoint with
  | .error fault => some fault
  | .ok endpoint =>
    match endpoint.directory with
    | some directory => some (socketFault directory endpoint.port)
    | none =>
      if endpoint.host.toList.contains '\x00' then
        some (.io "file name contained an unexpected NUL byte")
      else none

end Address

end Store

end Standings
