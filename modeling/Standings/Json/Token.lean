import Standings.Text.Decimal
import Standings.Text.Hex

/-! # JSON tokens

The words of a JSON text: brackets, separators, keywords, numbers and strings. A text is cut into
tokens by a machine that takes one character at a time (`Token.Mode.step`); writing a token gives
the text that is cut into that token again.

Two kinds of literal are words of the grammar but stand for no value that a record may hold: a
number with a fraction or an exponent (also `-0`, which has no integer of its own), and a string
with half a surrogate pair or with bytes that are no text. They are kept apart, since a field that
nobody reads may hold them. -/

namespace Standings

namespace Json

/-- Where a reader that has to make sense of a value gives up. -/
inductive Lapse where
  /-- At the value's last character: what follows the value can still be told apart. -/
  | atEnd
  /-- Before that: the rest of the value would be taken for what follows it. -/
  | inside
  deriving DecidableEq, Repr

/-- What the literal of a string stands for. -/
inductive Wording where
  /-- A text. -/
  | text (s : String)
  /-- No text. -/
  | unreadable (lapse : Lapse)
  deriving DecidableEq, Repr

/-- The text of a literal that stands for one. -/
def Wording.text? : Wording → Option String
  | .text s => some s
  | .unreadable _ => none

/-- A word of a JSON text. -/
inductive Token where
  /-- The bracket that opens a list. -/
  | openArray
  /-- The bracket that closes a list. -/
  | closeArray
  /-- The brace that opens an object. -/
  | openObject
  /-- The brace that closes an object. -/
  | closeObject
  /-- What stands between a name and its value. -/
  | colon
  /-- What stands between two values. -/
  | comma
  /-- The keyword for no value. -/
  | null
  /-- The keyword for a truth value. -/
  | bool (value : Bool)
  /-- A number without fraction and exponent. -/
  | integer (value : Int)
  /-- Any other number, by its literal. -/
  | real (literal : String)
  /-- A string. -/
  | string (wording : Wording)
  deriving DecidableEq, Repr

namespace Token

/-- A part of a string literal: a character, bytes that are none, or a 16-bit unit named by an
escape. -/
inductive Piece where
  /-- A character that stands for itself or has a short escape. -/
  | char (c : Char)
  /-- Bytes that are no text. -/
  | broken
  /-- A unit of UTF-16. -/
  | unit (n : Nat)
  deriving DecidableEq, Repr

/-- The first halves of surrogate pairs. -/
def isHigh (n : Nat) : Bool := 0xD800 ≤ n && n < 0xDC00

/-- The second halves of surrogate pairs. -/
def isLow (n : Nat) : Bool := 0xDC00 ≤ n && n < 0xE000

/-- The characters of a string literal. Units that form a pair are one character. A half without
the other is a lapse: a first half that comes last is one at the end, for its second half is
looked for up to the quotation mark. Whether all bytes are text is asked at the end. -/
def join : List Piece → Except Lapse (List Char)
  | [] => .ok []
  | .char c :: rest => (join rest).map (c :: ·)
  | .broken :: rest =>
    match join rest with
    | .error .inside => .error .inside
    | _ => .error .atEnd
  | .unit high :: .unit low :: rest =>
    if isHigh high then
      if isLow low then
        (join rest).map (Char.ofNat (0x10000 + (high - 0xD800) * 0x400 + (low - 0xDC00)) :: ·)
      else .error .inside
    -- No pair begins here, so the next unit is looked at by itself.
    else if isLow high then .error .inside
    else (join (.unit low :: rest)).map (Char.ofNat high :: ·)
  | .unit n :: rest =>
    if isHigh n then .error (if rest.isEmpty then .atEnd else .inside)
    else if isLow n then .error .inside
    else (join rest).map (Char.ofNat n :: ·)

/-- What the pieces of a literal stand for. -/
def wording (pieces : List Piece) : Wording :=
  match join pieces with
  | .ok chars => .text (String.ofList chars)
  | .error lapse => .unreadable lapse

/-- The character of a short escape, by the letter behind the backslash. -/
def unescape? (c : Char) : Option Char :=
  if c = '"' ∨ c = '\\' ∨ c = '/' then some c
  else if c = 'b' then some '\x08'
  else if c = 'f' then some '\x0c'
  else if c = 'n' then some '\n'
  else if c = 'r' then some '\r'
  else if c = 't' then some '\t'
  else none

/-- Drops digits, of which there must be one. -/
def dropDigits? (text : List Char) : Option (List Char) :=
  if (text.takeWhile Char.isDigit).isEmpty then none else some (text.dropWhile Char.isDigit)

/-- Drops a fraction, if there is one. -/
def dropFraction? : List Char → Option (List Char)
  | '.' :: rest => dropDigits? rest
  | rest => some rest

/-- Drops an exponent, if there is one. -/
def dropExponent? : List Char → Option (List Char)
  | [] => some []
  | c :: rest =>
    if c = 'e' ∨ c = 'E' then
      match rest with
      | '+' :: digits => dropDigits? digits
      | '-' :: digits => dropDigits? digits
      | digits => dropDigits? digits
    else some (c :: rest)

/-- Whether digits have no leading zero. -/
def isPlain : List Char → Bool
  | [] => false
  | ['0'] => true
  | c :: _ => c != '0'

/-- The token of a number literal. -/
def ofNumber? (literal : List Char) : Option Token := do
  let (negative, unsigned) := match literal with
    | '-' :: rest => (true, rest)
    | rest => (false, rest)
  let digits := unsigned.takeWhile Char.isDigit
  let rest := unsigned.dropWhile Char.isDigit
  if isPlain digits then
    if rest = [] then
      let value := Nat.ofDigitChars 10 digits 0
      if negative then
        -- Minus zero is a number without an integer of its own.
        if value = 0 then return real (String.ofList literal) else return integer (-value)
      else return integer value
    else
      let rest ← dropFraction? rest
      let rest ← dropExponent? rest
      if rest = [] then some (real (String.ofList literal)) else none
  else none

/-- The token of a keyword. -/
def ofKeyword? (letters : List Char) : Option Token :=
  if letters = ['n', 'u', 'l', 'l'] then some null
  else if letters = ['t', 'r', 'u', 'e'] then some (bool true)
  else if letters = ['f', 'a', 'l', 's', 'e'] then some (bool false)
  else none

/-- The token of a bracket or separator. -/
def ofPunctuation? (c : Char) : Option Token :=
  if c = '[' then some openArray
  else if c = ']' then some closeArray
  else if c = '\x7b' then some openObject
  else if c = '\x7d' then some closeObject
  else if c = ':' then some colon
  else if c = ',' then some comma
  else none

/-- The characters that may stand between tokens. -/
def isSpace (c : Char) : Bool :=
  c = ' ' || c = '\t' || c = '\n' || c = '\r'

/-- The characters that may occur in a number. -/
def isNumeric (c : Char) : Bool :=
  c.isDigit || c = '-' || c = '+' || c = '.' || c = 'e' || c = 'E'

/-- What the machine is in the middle of. Parts read so far are kept last part first. -/
inductive Mode where
  /-- Between two tokens. -/
  | between
  /-- In a keyword. -/
  | keyword (letters : List Char)
  /-- In a number. -/
  | number (chars : List Char)
  /-- In a string. -/
  | text (pieces : List Piece)
  /-- In a string, behind a backslash. -/
  | escape (pieces : List Piece)
  /-- In a string, with `missing + 1` digits of a unit to come. -/
  | unit (pieces : List Piece) (missing : Nat) (value : Nat)
  deriving DecidableEq, Repr

namespace Mode

/-- Takes the first character of a token, or one between tokens. -/
def start (c : Char) : Option (List Token × Mode) :=
  if isSpace c then some ([], between)
  else if c = '"' then some ([], text [])
  else if c = '-' ∨ c.isDigit then some ([], number [c])
  else if c.isLower then some ([], keyword [c])
  else (ofPunctuation? c).map fun token => ([token], between)

/-- Ends a token and takes the first character behind it. -/
def finishAt (token : Option Token) (c : Char) : Option (List Token × Mode) := do
  let token ← token
  let (tokens, mode) ← start c
  return (token :: tokens, mode)

/-- Takes one character: the tokens it ends, and what the machine is in the middle of then. -/
def step : Mode → Char → Option (List Token × Mode)
  | between, c => start c
  | keyword letters, c =>
    if c.isLower then some ([], keyword (c :: letters))
    else finishAt (ofKeyword? letters.reverse) c
  | number chars, c =>
    -- Whether the characters make up a number is asked when they end.
    if isNumeric c then some ([], number (c :: chars))
    else finishAt (ofNumber? chars.reverse) c
  | text pieces, c =>
    if c = '"' then some ([string (wording pieces.reverse)], between)
    else if c = '\\' then some ([], escape pieces)
    -- Control characters have to be escaped.
    else if c < ' ' then none
    else some ([], text (.char c :: pieces))
  | escape pieces, c =>
    if c = 'u' then some ([], unit pieces 3 0)
    else (unescape? c).map fun c => ([], text (.char c :: pieces))
  | unit pieces missing value, c => do
    let d ← Hex.digit? c
    match missing with
    | 0 => return ([], text (.unit (16 * value + d) :: pieces))
    | missing + 1 => return ([], unit pieces missing (16 * value + d))

/-- The tokens that end where the text ends. -/
def finish : Mode → Option (List Token)
  | between => some []
  | keyword letters => (ofKeyword? letters.reverse).map ([·])
  | number chars => (ofNumber? chars.reverse).map ([·])
  | _ => none

/-- Takes bytes that are no text. They may stand in a string, but not behind a backslash. -/
def stepBroken : Mode → Option Mode
  | text pieces => some (text (.broken :: pieces))
  | _ => none

/-- Takes characters, and bytes that are none, to their end. -/
def run : Mode → List (Option Char) → Option (List Token)
  | mode, [] => mode.finish
  | mode, none :: rest => mode.stepBroken.bind fun mode => run mode rest
  | mode, some c :: rest => do
    let (tokens, mode) ← mode.step c
    let later ← run mode rest
    return tokens ++ later

end Mode

/-- Cuts characters, with `none` for bytes that are none, into tokens. -/
def scan? (symbols : List (Option Char)) : Option (List Token) :=
  Mode.between.run symbols

/-- A character as it is written in a string. -/
def escape (c : Char) : List Char :=
  if c = '"' then ['\\', '"']
  else if c = '\\' then ['\\', '\\']
  else if c = '\x08' then ['\\', 'b']
  else if c = '\x0c' then ['\\', 'f']
  else if c = '\n' then ['\\', 'n']
  else if c = '\r' then ['\\', 'r']
  else if c = '\t' then ['\\', 't']
  else if c < ' ' then
    ['\\', 'u', '0', '0', (c.toNat / 16).digitChar, (c.toNat % 16).digitChar]
  else [c]

/-- The text of a token. -/
def write : Token → List Char
  | openArray => ['[']
  | closeArray => [']']
  | openObject => ['\x7b']
  | closeObject => ['\x7d']
  | colon => [':']
  | comma => [',']
  | null => ['n', 'u', 'l', 'l']
  | bool true => ['t', 'r', 'u', 'e']
  | bool false => ['f', 'a', 'l', 's', 'e']
  | integer value => Decimal.ofInt value
  | real literal => literal.toList
  | string (.text s) => '"' :: s.toList.flatMap escape ++ ['"']
  | string (.unreadable .atEnd) => ['"', '\\', 'u', 'd', '8', '0', '0', '"']
  | string (.unreadable .inside) => ['"', '\\', 'u', 'd', 'c', '0', '0', '"']

end Token

end Json

end Standings
