import Standings.Text.Hex
import Standings.Text.Split

/-! # Tables of characters

Properties of characters come from the Unicode character database as tables of words between
blanks: `41` stands for one character, by its code point in base sixteen, and `41-5A` for all from
one to another. A word of another form stands for nothing. -/

namespace Standings

namespace Text

/-- The words of a text, between blanks and line ends. -/
def words (text : String) : List (List Char) :=
  let (word, words) := text.toList.foldl
    (fun (word, words) c =>
      if c = ' ' ∨ c = '\n' then ([], word :: words) else (c :: word, words))
    (([], []) : List Char × List (List Char))
  ((word :: words).reverse.map List.reverse).filter (!·.isEmpty)

/-- Characters from one to another, by their code points. -/
structure CharRange where
  /-- The first code point. -/
  first : Nat
  /-- The last code point. -/
  last : Nat
  deriving DecidableEq, Repr

namespace CharRange

/-- Whether a character is one of them. -/
def contains (range : CharRange) (c : Char) : Bool :=
  range.first ≤ c.toNat && c.toNat ≤ range.last

/-- Reads one code point, or two with a hyphen between them. -/
def ofWord? (word : List Char) : Option CharRange :=
  match cutAtFirst? '-' word with
  | some (first, last) => do return ⟨← Hex.number? first, ← Hex.number? last⟩
  | none => (Hex.number? word).map fun n => ⟨n, n⟩

end CharRange

/-- A set of characters. -/
structure CharSet where
  /-- The ranges that make it up. -/
  ranges : Array CharRange
  deriving DecidableEq, Repr

namespace CharSet

/-- The set that a table describes. -/
def ofText (table : String) : CharSet :=
  ⟨((words table).filterMap CharRange.ofWord?).toArray⟩

/-- Whether a character is in a set. -/
def contains (set : CharSet) (c : Char) : Bool := set.ranges.any (·.contains c)

end CharSet

end Text

end Standings
