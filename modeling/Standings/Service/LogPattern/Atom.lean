import Standings.Text.Blank
import Standings.Text.Hex

/-! # Atoms of patterns

The smallest parts of a pattern: a character, a set of characters, or a place between two. Most
characters stand for themselves, and a backslash takes or gives a special meaning.

Switches in a pattern decide which atoms it may have. No tables of Unicode come with patterns, so
that while Unicode is on nothing may stand in it that needs one: sets of letters or digits, edges
of words, letters in either case. While it is off nothing may match what is only a part of a
character. -/

namespace Standings

namespace Service

namespace LogPattern

/-- What the switches say at some place in a pattern. -/
structure Switches where
  /-- Whether a letter stands for itself in either case. -/
  caseless : Bool := false
  /-- Whether sets and words are those of Unicode, not those of ASCII. -/
  unicode : Bool := true
  /-- Whether blanks and comments are passed over. -/
  spaced : Bool := false
  deriving DecidableEq, Repr

/-- Drops blanks and comments; a comment runs from a hash to the end of its line. -/
def skipFrom (inComment : Bool) : List Char → List Char
  | [] => []
  | c :: rest =>
    if inComment then skipFrom (c != '\n') rest
    else if Text.isBlank c then skipFrom false rest
    else if c = '#' then skipFrom true rest
    else c :: rest

/-- Drops what the switches let pass at the start of a text. -/
def skip (switches : Switches) (text : List Char) : List Char :=
  if switches.spaced then skipFrom false text else text

/-- A part of a pattern that has no parts itself. -/
inductive Atom where
  /-- A character, which may be written as the two digits of a byte. -/
  | char (c : Char) (asByte : Bool)
  /-- Any character that ends no line. -/
  | any
  /-- Digits, blanks or the characters of words, or all others. -/
  | kind (negated : Bool)
  /-- The characters that have a property. -/
  | property
  /-- An end of the text or of a line. -/
  | edge
  /-- A place where a word starts or ends, or where none does. -/
  | wordEdge
  deriving DecidableEq, Repr

namespace Atom

/-- Whether an atom may stand in a pattern. -/
def isSound (switches : Switches) : Atom → Bool
  | .char c asByte =>
    if switches.unicode then !switches.caseless else !(asByte && 0x80 ≤ c.toNat)
  | .any => switches.unicode
  | .kind negated => !switches.unicode && !negated
  | .property => false
  | .edge => true
  | .wordEdge => !switches.unicode

/-- Whether an atom may stand in brackets. -/
def isMember (switches : Switches) : Atom → Bool
  | .char c _ => if switches.unicode then !switches.caseless else c.toNat < 0x80
  | .kind negated => !switches.unicode && !negated
  | _ => false

/-- The code point of so many digits, behind those that have the value `value`. -/
def code? (switches : Switches) : Nat → Nat → List Char → Option (Nat × List Char)
  | 0, value, text => some (value, text)
  | count + 1, value, text =>
    match skip switches text with
    | [] => none
    | c :: rest =>
      (Hex.digit? c).bind fun digit => code? switches count (16 * value + digit) rest

/-- The letters before a code point, with its number of digits. -/
def codeLengths : List (Char × Nat) := [('x', 2), ('u', 4), ('U', 8)]

/-- The characters of letters that stand for controls. -/
def controls : List (Char × Char) :=
  [('a', '\x07'), ('f', '\x0C'), ('t', '\t'), ('n', '\n'), ('r', '\r'), ('v', '\x0B')]

/-- Reads what follows a backslash. -/
def ofEscape? (switches : Switches) : List Char → Option (Atom × List Char)
  | [] => none
  | c :: rest =>
    match codeLengths.lookup c with
    | some length => do
      let (code, rest) ← code? switches length 0 rest
      if code.isValidChar then some (.char (Char.ofNat code) (c = 'x'), rest) else none
    | none =>
      match controls.lookup c with
      | some control => some (.char control false, rest)
      | none =>
        if ['d', 's', 'w'].contains c then some (.kind false, rest)
        else if ['D', 'S', 'W'].contains c then some (.kind true, rest)
        else if ['p', 'P'].contains c then some (.property, rest)
        else if ['A', 'z'].contains c then some (.edge, rest)
        else if ['b', 'B', '<', '>'].contains c then some (.wordEdge, rest)
        -- All other letters and digits are kept for meanings to come.
        else if c.toNat < 0x80 ∧ ¬ c.isAlphanum then some (.char c false, rest)
        else none

end Atom

end LogPattern

end Service

end Standings
