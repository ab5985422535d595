import Standings.Service.LogPattern.Bracket
import Standings.Text.Alphanumeric

/-! # Patterns of log directives

A log directive may ask for a field with a certain value: a number, or a text that a pattern, a
regular expression, matches. Such directives are about spans, and no line is written in one, so
that nothing is ever matched; but a directive with a value that cannot be read is no directive.
`LogPattern.isValue` tells which values can be read.

A value stands between braces and holds no closing brace, so that what an opening brace would
begin, such as a number of repetitions, has no end. -/

namespace Standings

namespace Service

namespace LogPattern

/-- A group of a pattern that is still open, or the pattern itself. -/
structure Group where
  /-- The switches at the place that has been reached. -/
  switches : Switches := {}
  /-- The depths of the alternatives that are complete, last first. -/
  alternatives : List Nat := []
  /-- The parts of the last alternative, last first: the depth of each, and `none` for a change of
  switches. -/
  parts : List (Option Nat) := []
  deriving DecidableEq, Repr

namespace Group

/-- The depth of the last alternative. -/
def lastDepth (group : Group) : Nat := depthOf (group.parts.map (·.getD 0))

/-- The depth of what stands in a group. -/
def depth (group : Group) : Nat := depthOf (group.lastDepth :: group.alternatives)

/-- Puts a part of a depth behind the others. -/
def add (group : Group) (depth : Nat) : Group :=
  { group with parts := some depth :: group.parts }

/-- Puts an atom behind the other parts, if it may stand there. -/
def addAtom? (group : Group) (atom : Atom) : Option Group :=
  if atom.isSound group.switches then some (group.add 0) else none

/-- Begins another alternative. -/
def alternate (group : Group) : Group :=
  { group with alternatives := group.lastDepth :: group.alternatives, parts := [] }

/-- Repeats the last part; a change of switches cannot be repeated. -/
def repeat? (group : Group) : Option Group :=
  match group.parts with
  | some depth :: parts => some { group with parts := some (depth + 1) :: parts }
  | _ => none

/-- Changes the switches up to the end of the group. -/
def switch (group : Group) (switches : Switches) : Group :=
  { group with switches, parts := none :: group.parts }

end Group

/-- How far a pattern has been read. -/
structure Reading where
  /-- The innermost group. -/
  group : Group := {}
  /-- The groups around it, innermost first. -/
  outer : List Group := []
  /-- The names that groups have. -/
  names : List (List Char) := []
  deriving DecidableEq, Repr

/-- The letters of switches. -/
def switchLetters : List Char := ['i', 'm', 's', 'U', 'u', 'R', 'x']

/-- Turns switches on, and off behind a hyphen. -/
def Switches.change (switches : Switches) (letters : List Char) : Switches :=
  let on := letters.takeWhile (· ≠ '-')
  let off := letters.dropWhile (· ≠ '-')
  let value (letter : Char) (old : Bool) : Bool :=
    on.contains letter || (old && !off.contains letter)
  { caseless := value 'i' switches.caseless
    unicode := value 'u' switches.unicode
    spaced := value 'x' switches.spaced }

/-- Whether a text turns switches on or off: no letter twice, and no hyphen at the end. -/
def areSwitches (letters : List Char) : Bool :=
  letters.all ('-' :: switchLetters).contains && letters.eraseDups.length = letters.length
    && letters.getLast? ≠ some '-'

/-- Whether a text is the name of a group. -/
def isName : List Char → Bool
  | [] => false
  | first :: rest =>
    (first = '_' || Text.isAlphabetic first)
      && rest.all fun c => ['_', '.', '[', ']'].contains c || Text.isAlphanumeric c

namespace Reading

/-- Opens a group. -/
def enter (r : Reading) (switches : Switches) : Reading :=
  { r with group := { switches }, outer := r.group :: r.outer }

/-- Closes the innermost group. -/
def leave? (r : Reading) : Option Reading :=
  match r.outer with
  | [] => none
  | parent :: outer => some { r with group := parent.add (r.group.depth + 1), outer }

/-- Opens a group that has a name, of which the text is what follows the angle. -/
def named? (r : Reading) (text : List Char) : Option (Reading × List Char) :=
  match Text.cutAtFirst? '>' text with
  | none => none
  | some (name, rest) =>
    if isName name ∧ ¬ r.names.contains name then
      some ({ r.enter r.group.switches with names := name :: r.names }, rest)
    else none

/-- Reads switches: for the rest of the group, or for a group that starts behind a colon. -/
def switches? (r : Reading) (text : List Char) : Option (Reading × List Char) :=
  let letters := text.takeWhile fun c => c ≠ ':' ∧ c ≠ ')'
  let switches := r.group.switches.change letters
  if areSwitches letters then
    match text.drop letters.length with
    | ':' :: rest => some (r.enter switches, rest)
    | ')' :: rest =>
      if letters = [] then none else some ({ r with group := r.group.switch switches }, rest)
    | _ => none
  else none

/-- Reads what follows an opening parenthesis. -/
def open? (r : Reading) (text : List Char) : Option (Reading × List Char) :=
  match text with
  | '?' :: 'P' :: '<' :: rest => r.named? rest
  | '?' :: '<' :: rest => r.named? rest
  | '?' :: rest => r.switches? rest
  | rest => some (r.enter r.group.switches, rest)

/-- Puts an atom behind what has been read, and returns the rest of the text as well. -/
def addAtom? (r : Reading) (atom : Atom) (rest : List Char) : Option (Reading × List Char) :=
  (r.group.addAtom? atom).map fun group => ({ r with group }, rest)

/-- Repeats the last part; a question mark behind it asks for few repetitions. -/
def repeat? (r : Reading) (rest : List Char) : Option (Reading × List Char) :=
  r.group.repeat?.map fun group =>
    ({ r with group }, if rest.head? = some '?' then rest.tail else rest)

/-- Reads a set in brackets, of which the text is what follows the first of them. -/
def bracket? (r : Reading) (text : List Char) : Option (Reading × List Char) := do
  let (bracket, rest) ← Bracket.open? r.group.switches text
  let (depth, rest) ← bracket.read? r.group.switches [] rest
  return ({ r with group := r.group.add depth }, rest)

/-- Reads the part that starts with a character. -/
def step? (r : Reading) (c : Char) (rest : List Char) : Option (Reading × List Char) :=
  match c with
  | '(' => r.open? (skip r.group.switches rest)
  | ')' => r.leave?.map fun r => (r, rest)
  | '|' => some ({ r with group := r.group.alternate }, rest)
  | '[' => r.bracket? rest
  | '?' => r.repeat? rest
  | '*' => r.repeat? rest
  | '+' => r.repeat? rest
  | '\x7b' => none
  | '\\' => do
    let (atom, rest) ← Atom.ofEscape? r.group.switches rest
    r.addAtom? atom rest
  | '.' => r.addAtom? .any rest
  | '^' => r.addAtom? .edge rest
  | '$' => r.addAtom? .edge rest
  | c => r.addAtom? (.char c false) rest

/-- Reads to the end of a pattern. -/
def read? (r : Reading) (text : List Char) : Option Reading :=
  match skip r.group.switches text with
  | [] => some r
  | c :: rest =>
    match r.step? c rest with
    | none => none
    | some (r, left) =>
      -- Every step reads a character.
      if left.length < text.length then r.read? left else none
termination_by text.length

end Reading

/-- The greatest depth of a pattern. -/
def deepest : Nat := 250

/-- Whether a text is a pattern. -/
def isPattern (text : List Char) : Bool :=
  match Reading.read? {} text with
  | some r => r.outer.isEmpty && r.group.depth ≤ deepest
  | none => false

/-- Drops a sign at the start of a text. -/
def unsigned (text : List Char) : List Char :=
  match text with
  | '+' :: rest => rest
  | '-' :: rest => rest
  | text => text

/-- Whether a text is one or more digits, with or without a sign. -/
def isInteger (text : List Char) : Bool :=
  unsigned text ≠ [] && (unsigned text).all Char.isDigit

/-- Whether a text is a number: an infinite one or none at all by its name, or else digits with or
without a point and an exponent. -/
def isNumber (text : List Char) : Bool :=
  let text := unsigned text
  let named := ["inf", "infinity", "nan"].contains (String.ofList text).toLower
  let whole := text.takeWhile Char.isDigit
  let rest := text.dropWhile Char.isDigit
  let (fraction, rest) := match rest with
    | '.' :: rest => (rest.takeWhile Char.isDigit, rest.dropWhile Char.isDigit)
    | rest => ([], rest)
  let exponent := match rest with
    | [] => true
    | c :: rest => (c = 'e' || c = 'E') && isInteger rest
  named || ((whole ≠ [] || fraction ≠ []) && exponent)

/-- Whether the value of a field can be read. -/
def isValue (text : List Char) : Bool := isNumber text || isPattern text

end LogPattern

end Service

end Standings
