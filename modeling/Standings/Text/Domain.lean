import Standings.Text.Canonical
import Standings.Text.Domain.Direction
import Standings.Text.Domain.Joining
import Standings.Text.Domain.Mapping
import Standings.Text.FormUrlencoded
import Standings.Text.Mark
import Standings.Text.Punycode
import Standings.Text.Utf8

/-! # Domains

The name of a domain: labels between dots, of characters of all scripts. Names that differ only in
the case or the shape of their letters are one name, and `Domain.ofText?` finds its common form. A
label that starts with `xn--` holds a label of other characters in the letters of ASCII; it has to
hold one that is in the common form.

A name is refused if a character may not stand in it, if a label starts with a mark, if a joiner
stands where it cannot be seen, or if labels mix directions of writing. -/

namespace Standings

namespace Domain

/-- The common form of characters; `none` if one of them may not stand in a domain. -/
def commonForm? (text : List Char) : Option (List Char) :=
  (text.mapM mapChar?).map fun parts => Text.Canonical.ofText parts.flatten

/-- Whether all characters are ASCII. -/
def isAscii (text : List Char) : Bool := text.all (·.toNat < 0x80)

/-- What stands at the start of a label that holds other characters. -/
def markOfWritten : List Char := "xn--".toList

/-- The longest label of other characters. -/
def longestLabel : Nat := 1000

/-- The longest written form of such a label. -/
def longestWritten : Nat := 2000

/-- The label that a written form stands for. An empty form, or one that ends with a hyphen, would
stand for ASCII characters alone. -/
def ofWritten? (written : List Char) : Option (List Char) :=
  if isAscii written ∧ ¬ [none, some '-'].contains written.getLast?
      ∧ written.length ≤ longestWritten then do
    let label ← Punycode.decode? written
    if commonForm? label = some label then some label else none
  else none

/-- Whether the characters of a label may stand where they stand. -/
def isSound (label : List Char) : Bool :=
  !(label.head?.any Text.isMark) && joinsFrom [] label

/-- The characters of a label in the common form; `none` if it is no label. -/
def label? (label : List Char) : Option (List Char) :=
  if markOfWritten.isPrefixOf label then
    (ofWritten? (label.drop markOfWritten.length)).filter isSound
  else if isAscii label then some label
  else if isSound label ∧ label.length ≤ longestLabel then some label
  else none

/-- Whether labels may stand together: where a direction binds them, each keeps to one. -/
def areConsistent (labels : List (List Char)) : Bool :=
  !(labels.any (·.any fun c => (Direction.ofChar c).binds))
    || labels.all Direction.isConsistent

/-- Whether a character of ASCII may not stand in the name of a host. -/
def isForbidden (c : Char) : Bool :=
  c ≤ ' ' || c = '\x7F' || "%#/:<>?@[\\]^|".toList.contains c

/-- The common form of a domain; `none` if the text is no domain. -/
def ofText? (text : List Char) : Option (List Char) := do
  let common ← commonForm? text
  let labels ← (Text.pieces '.' common).mapM label?
  if areConsistent labels ∧ ¬ common.any isForbidden then some common else none

/-- The common form of a domain with percent signs. -/
def ofEncoded? (text : List Char) : Option (List Char) := do
  let bytes := FormUrlencoded.percentDecode (Utf8.encode (String.ofList text))
  ofText? (← Utf8.decode? bytes).toList

end Domain

end Standings
