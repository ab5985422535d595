import Standings.Text.Canonical.Classes
import Standings.Text.Canonical.Composites

/-! # Canonical form

Texts that look and mean the same may be written in several ways: a letter with a mark is one
character or two, and marks may stand in different orders. The canonical form is one of them: all
characters are taken apart, the marks behind each put in the order of their classes, and then
characters put together again wherever one stands for two.

The syllables of Hangul are put together by a rule and not by a table. -/

namespace Standings

namespace Text

namespace Canonical

/-! ## Syllables of Hangul -/

/-- The first syllable. -/
def firstSyllable : Nat := 0xAC00

/-- The first of the letters that begin a syllable. -/
def firstLead : Nat := 0x1100

/-- The first of the vowels. -/
def firstVowel : Nat := 0x1161

/-- The character before the first of the letters that end a syllable. -/
def beforeTails : Nat := 0x11A7

/-- The number of letters that begin a syllable. -/
def leadCount : Nat := 19

/-- The number of vowels. -/
def vowelCount : Nat := 21

/-- The number of ways in which a syllable may end. -/
def tailCount : Nat := 28

/-- The letters of a syllable. -/
def letters? (c : Char) : Option (List Char) :=
  let place := c.toNat - firstSyllable
  if firstSyllable ≤ c.toNat ∧ place < leadCount * vowelCount * tailCount then
    let lead := Char.ofNat (firstLead + place / (vowelCount * tailCount))
    let vowel := Char.ofNat (firstVowel + place / tailCount % vowelCount)
    let tail := place % tailCount
    some ([lead, vowel] ++ if tail = 0 then [] else [Char.ofNat (beforeTails + tail)])
  else none

/-- The syllable of its first and its second part: a letter and a vowel, or a syllable that ends in
a vowel and a last letter. -/
def syllable? (first second : Char) : Option Char :=
  let a := first.toNat
  let b := second.toNat
  if firstLead ≤ a ∧ a < firstLead + leadCount ∧ firstVowel ≤ b ∧ b < firstVowel + vowelCount then
    let place := (a - firstLead) * vowelCount + (b - firstVowel)
    some (Char.ofNat (firstSyllable + place * tailCount))
  else if firstSyllable ≤ a ∧ a < firstSyllable + leadCount * vowelCount * tailCount
      ∧ (a - firstSyllable) % tailCount = 0 ∧ beforeTails < b ∧ b < beforeTails + tailCount then
    some (Char.ofNat (a + (b - beforeTails)))
  else none

/-! ## Taking apart and putting together -/

/-- What a character stands for, as far as it can be taken apart. -/
def parts (c : Char) : List Char :=
  match letters? c with
  | some letters => letters
  | none =>
    match composites.find? (·.whole = c.toNat) with
    | some composite => composite.parts.map Char.ofNat
    | none => [c]

/-- The character that stands for two. -/
def whole? (first second : Char) : Option Char :=
  match syllable? first second with
  | some syllable => some syllable
  | none =>
    let both := (parts first ++ [second]).map Char.toNat
    (composites.find? (·.parts = both)).map fun composite => Char.ofNat composite.whole

/-- Puts a mark before the marks of greater classes at the end of a text, which is held last
character first. -/
def insertMark (mark : Char) : List Char → List Char
  | [] => [mark]
  | c :: before =>
    if classOf mark < classOf c then c :: insertMark mark before else mark :: c :: before

/-- Puts a character behind a text, which is held last character first; marks find their place. -/
def append (text : List Char) (c : Char) : List Char :=
  if classOf c = 0 then c :: text else insertMark c text

/-- A text that is being put together; texts are held last character first. -/
structure Joined where
  /-- What comes before the base. -/
  done : List Char := []
  /-- The last character of class 0, if there is one. -/
  base : Option Char := none
  /-- The marks behind it. -/
  marks : List Char := []
  deriving DecidableEq, Repr

namespace Joined

/-- The characters, last first. -/
def toList (j : Joined) : List Char := j.marks ++ j.base.toList ++ j.done

/-- Puts a character behind the text. It is put together with the base unless a mark stands between
them that it may not change places with. -/
def add (j : Joined) (c : Char) : Joined :=
  let isNext := match j.marks with
    | [] => true
    | mark :: _ => decide (classOf mark < classOf c)
  match if isNext then j.base.bind (whole? · c) else none with
  | some whole => { j with base := some whole }
  | none =>
    if classOf c = 0 then { done := j.toList, base := some c }
    else { j with marks := c :: j.marks }

end Joined

/-- The canonical form of a text. -/
def ofText (text : List Char) : List Char :=
  let apart := ((text.flatMap parts).foldl append []).reverse
  (apart.foldl Joined.add {}).toList.reverse

end Canonical

end Text

end Standings
