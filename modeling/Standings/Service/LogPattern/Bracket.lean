import Standings.Service.LogPattern.Atom

/-! # Brackets of patterns

A set of characters in brackets: its members are characters, ranges of them, named sets, and
further brackets. Behind the opening bracket a caret may take all characters but these; hyphens
stand there for themselves, and so does a closing bracket if it is the first. The operators `&&`,
`--` and `~~` combine what stands on both sides of them.

`Bracket.read?` finds the end of a set and tells how deeply it nests. -/

namespace Standings

namespace Service

namespace LogPattern

/-- How deeply several parts nest: a part alone is no deeper than it is itself. -/
def depthOf : List Nat → Nat
  | [] => 0
  | [depth] => depth
  | depths => depths.foldl max 0 + 1

/-- Brackets that are still open. -/
structure Bracket where
  /-- The depth of what stands before the last operator. -/
  left : Option Nat := none
  /-- The depths of the members behind it, last first. -/
  members : List Nat := []
  /-- Whether something has been read that is no hyphen at the start. -/
  begun : Bool := false
  deriving DecidableEq, Repr

namespace Bracket

/-- The depth of what stands in the brackets. -/
def depth (bracket : Bracket) : Nat :=
  match bracket.left with
  | none => depthOf bracket.members
  | some left => max left (depthOf bracket.members) + 1

/-- Puts a member of a depth into the brackets. -/
def add (bracket : Bracket) (depth : Nat) : Bracket :=
  { bracket with members := depth :: bracket.members, begun := true }

/-- Puts an operator behind what stands in the brackets. -/
def combine (bracket : Bracket) : Bracket := { left := some bracket.depth, begun := true }

/-- Reads what follows an opening bracket. -/
def open? (switches : Switches) (text : List Char) : Option (Bracket × List Char) :=
  match skip switches text with
  | '^' :: rest =>
    -- Without Unicode, bytes that are no characters would match.
    if switches.unicode then some ({}, rest) else none
  | text => some ({}, text)

/-- The names of sets. -/
def names : List String :=
  ["alnum", "alpha", "ascii", "blank", "cntrl", "digit", "graph", "lower", "print", "punct",
    "space", "upper", "word", "xdigit"]

/-- Reads the rest of a named set, such as `:alpha:]`, and tells whether it is negated. -/
def named? (text : List Char) : Option (Bool × List Char) :=
  match text with
  | ':' :: text =>
    let (negated, text) := match text with
      | '^' :: rest => (true, rest)
      | text => (false, text)
    match text.dropWhile (· ≠ ':') with
    | ':' :: ']' :: rest =>
      if names.contains (String.ofList (text.takeWhile (· ≠ ':'))) then some (negated, rest)
      else none
    | _ => none
  | _ => none

/-- Reads one end of a range. -/
def atom? (switches : Switches) : List Char → Option (Atom × List Char)
  | [] => none
  | '\\' :: rest => Atom.ofEscape? switches rest
  | c :: rest => some (.char c false, rest)

/-- What comes behind a hyphen. Only the first character of a comment is left out. -/
def next? (switches : Switches) (text : List Char) : Option Char :=
  if switches.spaced then
    match text.dropWhile Text.isBlank with
    | '#' :: rest => (rest.dropWhile Text.isBlank).head?
    | rest => rest.head?
  else text.head?

/-- Reads an atom or a range, and returns what follows. A hyphen before a closing bracket or
before another hyphen makes no range. -/
def range? (switches : Switches) (text : List Char) : Option (List Char) := do
  let (first, rest) ← atom? switches text
  if first.isMember switches then
    let rest := skip switches rest
    match rest with
    | '-' :: behind =>
      if [some ']', some '-'].contains (next? switches behind) then some rest
      else
        let (last, rest) ← atom? switches (skip switches behind)
        match first, last with
        | .char a _, .char b _ => if last.isMember switches ∧ a ≤ b then some rest else none
        | _, _ => none
    | _ => some rest
  else none

/-- What the next member of some brackets leads to. -/
inductive Step where
  /-- The brackets are open, and so are those around them. -/
  | inside (bracket : Bracket) (outer : List Bracket)
  /-- The outermost brackets have been closed, with their depth. -/
  | closed (depth : Nat)
  deriving DecidableEq, Repr

/-- Reads the next member, operator or bracket. -/
def step? (switches : Switches) (bracket : Bracket) (outer : List Bracket) (text : List Char) :
    Option (Step × List Char) :=
  match text with
  | [] => none
  | c :: rest =>
    if c = '[' then
      match named? rest with
      | some (negated, rest) =>
        if (if switches.unicode then switches.caseless else negated) then none
        else some (.inside (bracket.add 0) outer, rest)
      | none => do
        let (inner, rest) ← open? switches rest
        return (.inside inner (bracket :: outer), rest)
    else if c = ']' ∧ (bracket.begun ∨ bracket.members ≠ []) then
      let depth := bracket.depth + 1
      match outer with
      | [] => some (.closed depth, rest)
      | parent :: outer => some (.inside (parent.add depth) outer, rest)
    else if ¬ bracket.begun ∧ c = '-' then
      if (Atom.char c false).isMember switches then
        some (.inside { bracket with members := 0 :: bracket.members } outer, rest)
      else none
    else if ['&', '-', '~'].contains c ∧ rest.head? = some c then
      some (.inside bracket.combine outer, rest.tail)
    else if c = ']' then
      if (Atom.char c false).isMember switches then some (.inside (bracket.add 0) outer, rest)
      else none
    else do
      let rest ← range? switches text
      return (.inside (bracket.add 0) outer, rest)

/-- Reads to the end of the outermost brackets, and returns their depth and what follows. -/
def read? (switches : Switches) (bracket : Bracket) (outer : List Bracket) (text : List Char) :
    Option (Nat × List Char) :=
  match step? switches bracket outer (skip switches text) with
  | none => none
  | some (.closed depth, rest) => some (depth, rest)
  | some (.inside bracket outer, rest) =>
    -- Every step reads a character.
    if rest.length < text.length then read? switches bracket outer rest else none
termination_by text.length

end Bracket

end LogPattern

end Service

end Standings
