import Standings.Text.Split
import Standings.Text.Utf8

/-! # Request targets

The target of a request: a path with a query (`/a?b`), a whole URI (`http://host/a?b`), an
authority alone (`host:port`) or a star. `Target.parse?` says whether a text is a target at all
and finds its path and query, both undecoded; a fragment is dropped. Targets are read as bytes;
bytes outside ASCII may stand in a path or a query, but not in an authority, and controls in none
of them. -/

namespace Standings

namespace Gateway

/-- What a request is for. -/
structure Target where
  /-- The path, undecoded. -/
  path : List UInt8
  /-- The query, undecoded, if there is a question mark. -/
  query : Option (List UInt8)
  deriving DecidableEq, Repr

namespace Target

open Utf8 (ascii)

/-- The longest target, in bytes. -/
def longest : Nat := 65534

/-- Whether a byte is an ASCII letter or digit. -/
def isAlphanum (b : UInt8) : Bool :=
  (Char.ofNat b.toNat).isAlphanum

/-- The bytes that may stand in a path. -/
def isPathByte (b : UInt8) : Bool :=
  b = 0x21 || (0x24 ≤ b && b ≤ 0x3B) || b = 0x3D || (0x40 ≤ b && b ≤ 0x5F)
    || (0x61 ≤ b && b ≤ 0x7E) || 0x80 ≤ b || b = ascii '"'

/-- The bytes that may stand in a query. -/
def isQueryByte (b : UInt8) : Bool :=
  b = 0x21 || (0x24 ≤ b && b ≤ 0x3B) || b = 0x3D || (0x3F ≤ b && b ≠ 0x7F)

/-- The bytes that may stand in an authority, beside letters and digits. -/
def isAuthorityMark (b : UInt8) : Bool :=
  "!$&'()*+,-.:;=@[]_~%".toList.contains (Char.ofNat b.toNat) && b < 0x80

/-- The bytes that may stand in a scheme, beside letters and digits. -/
def isSchemeMark (b : UInt8) : Bool :=
  b = ascii '+' || b = ascii '-' || b = ascii '.' || b = ascii '~'

/-- Reads a path and a query. -/
def pathAndQuery? (bytes : List UInt8) : Option Target :=
  let whole := bytes.takeWhile (· != ascii '#')
  match Text.cutAtFirst? (ascii '?') whole with
  | none => if whole.all isPathByte then some ⟨whole, none⟩ else none
  | some (path, query) =>
    if path.all isPathByte && query.all isQueryByte then some ⟨path, some query⟩ else none

/-- What has been seen of an authority. -/
structure AuthorityScan where
  /-- Colons since the last bracket or at sign. -/
  colons : Nat := 0
  /-- A bracket has been opened. -/
  opened : Bool := false
  /-- A bracket has been closed. -/
  closed : Bool := false
  /-- A percent sign since the last bracket or at sign. -/
  percent : Bool := false
  /-- The last byte was an at sign. -/
  endsInAt : Bool := false
  deriving DecidableEq, Repr

/-- The greatest number of colons without a bracket or an at sign between them. -/
def mostColons : Nat := 8

/-- Takes a byte of an authority; `none` if it may not stand there. -/
def AuthorityScan.step (scan : AuthorityScan) (b : UInt8) : Option AuthorityScan :=
  let scan := { scan with endsInAt := b = ascii '@' }
  if b = ascii ':' then
    if scan.colons < mostColons then some { scan with colons := scan.colons + 1 } else none
  else if b = ascii '[' then
    if scan.percent || scan.opened then none else some { scan with opened := true }
  else if b = ascii ']' then
    if scan.opened && !scan.closed then
      some { scan with closed := true, colons := 0, percent := false }
    else none
  else if b = ascii '@' then some { scan with colons := 0, percent := false }
  else if b = ascii '%' then some { scan with percent := true }
  else if isAlphanum b || isAuthorityMark b then some scan
  else none

/-- Whether an authority may end here: brackets are closed, at most one port follows, and a host
stands behind an at sign. -/
def AuthorityScan.isComplete (scan : AuthorityScan) : Bool :=
  scan.opened == scan.closed && scan.colons ≤ 1 && !scan.endsInAt && !scan.percent

/-- Whether bytes are an authority. -/
def isAuthority (bytes : List UInt8) : Bool :=
  (bytes.foldlM AuthorityScan.step {}).any AuthorityScan.isComplete

/-- Whether a byte ends an authority. -/
def endsAuthority (b : UInt8) : Bool :=
  b = ascii '/' || b = ascii '?' || b = ascii '#'

/-- What follows a scheme and its two slashes, if a scheme comes first. -/
def afterScheme? (bytes : List UInt8) : Option (List UInt8) :=
  let isSchemeByte (b : UInt8) : Bool := isAlphanum b || isSchemeMark b
  let scheme := bytes.takeWhile isSchemeByte
  match bytes.dropWhile isSchemeByte with
  | colon :: slash :: slash' :: rest =>
    if colon = ascii ':' ∧ slash = ascii '/' ∧ slash' = ascii '/' ∧ scheme.length ≤ 64 then
      some rest
    else none
  | _ => none

/-- The path of a whole URI: a slash if it is empty. -/
def orRoot (target : Target) : Target :=
  { target with path := if target.path = [] then [ascii '/'] else target.path }

/-- Reads a target. -/
def parse? (text : String) : Option Target :=
  let bytes := Utf8.encode text
  if longest < bytes.length then none
  else match bytes with
    | [] => none
    | first :: _ =>
      if first = ascii '/' then pathAndQuery? bytes
      else if bytes = [ascii '*'] then some ⟨[ascii '*'], none⟩
      -- Without a scheme only an authority is left, and it has no path.
      else match afterScheme? bytes with
        | none => if isAuthority bytes then some ⟨[], none⟩ else none
        | some rest =>
          let authority := rest.takeWhile (!endsAuthority ·)
          if authority ≠ [] ∧ isAuthority authority then
            (pathAndQuery? (rest.dropWhile (!endsAuthority ·))).map orRoot
          else none

end Target

end Gateway

end Standings
