import Standings.Text.Blank
import Standings.Text.Domain
import Standings.Text.IpAddress

/-! # URLs

The parts of an absolute URL, read as browsers read it. Blanks and controls at both ends are
dropped, and tabs and line ends wherever they stand. What follows the scheme depends on it: the
schemes of the web take any number of slashes before a host they cannot do without, and a backslash
for a slash; files have a host without a user or a port; all others have a host behind exactly two
slashes, and may be without one.

The parts keep their percent signs, but for the domains of the web; the path has its dot segments
resolved. -/

namespace Standings

/-- Why a text is no absolute URL. -/
inductive UrlFault where
  /-- It has no scheme. -/
  | relative
  /-- A host is missing. -/
  | emptyHost
  /-- The port is no number below 65536. -/
  | badPort
  /-- The host looks like an IPv4 address and is none. -/
  | badIpv4
  /-- The host stands in brackets and is no IPv6 address. -/
  | badIpv6
  /-- The host cannot be a domain of the web. -/
  | badDomain
  /-- The host has a character that no host has. -/
  | badHostCharacter
  deriving DecidableEq, Repr

/-- The words for a fault. -/
def UrlFault.message : UrlFault → String
  | .relative => "relative URL without a base"
  | .emptyHost => "empty host"
  | .badPort => "invalid port number"
  | .badIpv4 => "invalid IPv4 address"
  | .badIpv6 => "invalid IPv6 address"
  | .badDomain => "invalid international domain name"
  | .badHostCharacter => "invalid domain character"

/-- How the part of a URL behind its scheme is read. -/
inductive UrlScheme where
  /-- A scheme of the web, with the port that it means if none is given. -/
  | web (port : Nat)
  /-- The scheme of files. -/
  | file
  /-- Any other scheme. -/
  | other
  deriving DecidableEq, Repr

namespace UrlScheme

/-- The schemes of the web. -/
def webPorts : List (String × Nat) :=
  [("http", 80), ("https", 443), ("ws", 80), ("wss", 443), ("ftp", 21)]

/-- The scheme of a name in any case. -/
def ofName (name : String) : UrlScheme :=
  let name := name.toLower
  if name = "file" then .file
  else match webPorts.lookup name with
    | some port => .web port
    | none => .other

/-- Whether a character separates the segments of a path. -/
def isSlash (scheme : UrlScheme) (c : Char) : Bool :=
  c = '/' || (c = '\\' && scheme ≠ .other)

/-- Whether a character ends the part between the slashes and the path. -/
def endsAuthority (scheme : UrlScheme) (c : Char) : Bool :=
  scheme.isSlash c || c = '?' || c = '#'

end UrlScheme

/-- An absolute URL. -/
structure Url where
  /-- The user before the at sign. -/
  user : List Char := []
  /-- What follows the user and a colon. -/
  password : List Char := []
  /-- The host; empty if there is none. A domain of the web is in its common form. -/
  host : List Char := []
  /-- The port, if it is not the one that the scheme means. -/
  port : Option Nat := none
  /-- The path. -/
  path : List Char := []
  /-- The query, without its question mark. -/
  query : List Char := []
  deriving DecidableEq, Repr

namespace Url

/-- The characters of a scheme behind its first letter. -/
def isSchemeChar (c : Char) : Bool :=
  c.isAlphanum || c = '+' || c = '-' || c = '.'

/-- Cuts a scheme and its colon from what follows. -/
def cutScheme? (text : List Char) : Option (List Char × List Char) :=
  if (text.head?.map Char.isAlpha).getD false then
    match text.dropWhile isSchemeChar with
    | ':' :: rest => some (text.takeWhile isSchemeChar, rest)
    | _ => none
  else none

/-- Cuts the host from its port: at the first colon outside brackets. -/
def cutHost : Bool → List Char → List Char × Option (List Char)
  | _, [] => ([], none)
  | inBrackets, c :: rest =>
    if c = ':' ∧ ¬ inBrackets then ([], some rest)
    else
      let inside := c = '[' || (inBrackets && c ≠ ']')
      let (host, port) := cutHost inside rest
      (c :: host, port)

/-- Whether a character may not stand in a host of any scheme. -/
def isForbidden (c : Char) : Bool :=
  ['\x00', '\t', '\n', '\r', ' '].contains c || "#/:<>?@[\\]^|".toList.contains c

/-- Reads a domain of the web. If its last label is a number it has to be an IPv4 address. -/
def domain? (text : List Char) : Except UrlFault (List Char) :=
  match Domain.ofEncoded? text with
  | none => .error .badDomain
  | some domain =>
    if domain = [] then .error .emptyHost
    else if Ip.endsInNumber domain ∧ ¬ Ip.isLaxIpv4 domain then .error .badIpv4
    else .ok domain

/-- Reads a host. -/
def host? (scheme : UrlScheme) (text : List Char) : Except UrlFault (List Char) :=
  match text with
  | '[' :: rest =>
    if rest.getLast? = some ']' ∧ Ip.isIpv6 rest.dropLast then .ok text else .error .badIpv6
  | _ =>
    match scheme with
    | .web _ => if text = [] then .error .emptyHost else domain? text
    | .file => if text = [] then .ok [] else domain? text
    | .other => if text.any isForbidden then .error .badHostCharacter else .ok text

/-- Reads a port; without digits there is none. -/
def port? (digits : List Char) : Except UrlFault (Option Nat) :=
  match digits with
  | [] => .ok none
  | _ =>
    if digits.all Char.isDigit ∧ Nat.ofDigitChars 10 digits 0 ≤ 65535 then
      .ok (some (Nat.ofDigitChars 10 digits 0))
    else .error .badPort

/-- Leaves out the port that a scheme means anyway. -/
def givenPort (scheme : UrlScheme) (port : Option Nat) : Option Nat :=
  match scheme with
  | .web usual => if port = some usual then none else port
  | _ => port

/-- Reads a user with a password, a host and a port. A user, a password or a port needs a host.
`atEnd` says that nothing follows; what is left of the text belongs to the path, because a
backslash ends a port of any scheme. -/
def authority? (scheme : UrlScheme) (text : List Char) (atEnd : Bool) :
    Except UrlFault (Url × List Char) := do
  let (login, hostAndPort) := (Text.cutAtLast? '@' text).getD ([], text)
  if text.head? = some '@' ∧ login = [] ∧ hostAndPort = [] ∧ ¬ atEnd then throw .emptyHost
  let (user, password) := (Text.cutAtFirst? ':' login).getD (login, [])
  let (host, behind) := cutHost false hostAndPort
  let host ← host? scheme host
  if host = [] ∧ behind.isSome then throw .emptyHost
  let port ← port? ((behind.getD []).takeWhile (· ≠ '\\'))
  if host = [] ∧ (user ≠ [] ∨ password ≠ []) then throw .emptyHost
  return ({ user, password, host, port := givenPort scheme port },
    (behind.getD []).dropWhile (· ≠ '\\'))

/-- Whether a segment of a path stands for the directory it is in. -/
def isHere (segment : String) : Bool :=
  [".", "%2e"].contains segment.toLower

/-- Whether a segment of a path stands for the directory above. -/
def isAbove (segment : String) : Bool :=
  ["..", ".%2e", "%2e.", "%2e%2e"].contains segment.toLower

/-- Whether a text is a letter that names a drive. -/
def isDrive : List Char → Bool
  | [letter, mark] => letter.isAlpha && (mark = ':' || mark = '|')
  | _ => false

/-- Goes up from the directory at the end of a path, which is held last character first and ends
with a slash. The root has none above it, and neither has a drive. -/
def climb (path : List Char) : List Char :=
  match path with
  | '/' :: inside =>
    let directory := (inside.takeWhile (· ≠ '/')).reverse
    if ¬ inside.contains '/' ∨ isDrive (directory.takeWhile (· ≠ '\\')) then path
    else inside.dropWhile (· ≠ '/')
  | path => path

/-- Follows segments from a directory, which is held last character first and ends with a slash.
A drive of a file is named with a colon. -/
def follow (isFile : Bool) (path : List Char) : List (List Char) → List Char
  | [] => path
  | segment :: rest =>
    let slash := if rest = [] then [] else ['/']
    let path :=
      if isAbove (String.ofList segment) then climb path
      else if isHere (String.ofList segment) then path
      else if isFile ∧ path = ['/'] ∧ isDrive segment then
        slash ++ ':' :: segment.take 1 ++ path
      else slash ++ segment.reverse ++ path
    follow isFile path rest

/-- A path with its dot segments resolved. -/
def resolvePath (scheme : UrlScheme) (path : List Char) : List Char :=
  let path := path.map fun c => if scheme.isSlash c then '/' else c
  let path := if path.head? = some '/' then path.tail else path
  (follow (scheme = .file) ['/'] (Text.pieces '/' path)).reverse

/-- Whether a character ends a path. -/
def endsPath (c : Char) : Bool := c = '?' || c = '#'

/-- The query in what follows a path. -/
def queryOf (rest : List Char) : List Char :=
  match rest with
  | '?' :: rest => rest.takeWhile (· != '#')
  | _ => []

/-- Adds the path and the query to a URL. -/
def addPath (scheme : UrlScheme) (rest : List Char) (url : Url) : Url :=
  { url with
    path := resolvePath scheme (rest.takeWhile (!endsPath ·))
    query := queryOf (rest.dropWhile (!endsPath ·)) }

/-- Reads what follows the slashes before a host. -/
def afterSlashes? (scheme : UrlScheme) (text : List Char) : Except UrlFault Url := do
  let rest := text.dropWhile (!scheme.endsAuthority ·)
  let (url, left) ← authority? scheme (text.takeWhile (!scheme.endsAuthority ·)) (rest = [])
  return addPath scheme (left ++ rest) url

/-- A URL without its host if its path starts with a drive. -/
def dropHostBeforeDrive (url : Url) : Url :=
  if isDrive (url.path.tail.takeWhile (· ≠ '/')) then { url with host := [] } else url

/-- Reads what follows the scheme of a file. The host of the machine itself is as good as none. -/
def file? (text : List Char) : Except UrlFault Url :=
  match text with
  | a :: b :: rest =>
    if UrlScheme.file.isSlash a ∧ UrlScheme.file.isSlash b then
      let host := rest.takeWhile (!UrlScheme.file.endsAuthority ·)
      if isDrive host then .ok (addPath .file rest {})
      else do
        let host ← host? .file host
        let url := if host = "localhost".toList then {} else { host }
        let rest := rest.dropWhile (!UrlScheme.file.endsAuthority ·)
        return dropHostBeforeDrive (addPath .file rest url)
    else .ok (addPath .file text {})
  | _ => .ok (addPath .file text {})

/-- The characters of a text that count: without blanks and controls at its ends, and without tabs
and line ends. -/
def significant (text : List Char) : List Char :=
  (Text.strip (· ≤ ' ') text).filter fun c => c ≠ '\t' ∧ c ≠ '\n' ∧ c ≠ '\r'

/-- Reads a URL. -/
def parse? (text : String) : Except UrlFault Url :=
  match cutScheme? (significant text.toList) with
  | none => .error .relative
  | some (name, rest) =>
    match UrlScheme.ofName (String.ofList name) with
    | .file => file? rest
    | .web port => afterSlashes? (.web port) (rest.dropWhile (UrlScheme.web port).isSlash)
    | .other =>
      match rest with
      | '/' :: '/' :: rest => afterSlashes? .other rest
      | '/' :: _ => .ok (addPath .other rest {})
      -- Without a slash the path is no list of segments.
      | _ =>
        .ok
          { path := rest.takeWhile (!endsPath ·)
            query := queryOf (rest.dropWhile (!endsPath ·)) }

end Url

end Standings
