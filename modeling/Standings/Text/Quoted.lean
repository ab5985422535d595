import Standings.Text.Printable

/-! # Quoted text

A text between quotation marks, for messages that show what could not be read. A quotation mark, a
backslash, the tabulator, the two line ends and NUL have short escapes; any other character that
is not printable is written by its code point in braces; all else, also an apostrophe, stands as
it is. -/

namespace Standings

namespace Text

/-- The digits of a code point in base sixteen, without leading zeros. -/
def hexDigits (n : Nat) : List Char :=
  Nat.toDigits 16 n

/-- A character as it is shown between quotation marks. -/
def quoteChar (c : Char) : List Char :=
  if c = '"' then ['\\', '"']
  else if c = '\\' then ['\\', '\\']
  else if c = '\t' then ['\\', 't']
  else if c = '\r' then ['\\', 'r']
  else if c = '\n' then ['\\', 'n']
  else if c = '\x00' then ['\\', '0']
  -- All that has a short escape is done; the rest is shown if it can be.
  else if isPrintable c then [c]
  else ['\\', 'u', '\x7b'] ++ hexDigits c.toNat ++ ['\x7d']

/-- The text between quotation marks. -/
def quote (text : String) : String :=
  String.ofList ('"' :: text.toList.flatMap quoteChar ++ ['"'])

end Text

end Standings
