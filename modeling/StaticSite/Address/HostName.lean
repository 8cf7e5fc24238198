import StaticSite.Address.Punycode
import StaticSite.Text.Decomposition
import StaticSite.Text.Direction
import StaticSite.Text.LetterCase

/-! Names of hosts as they are looked up. A name beyond ASCII is taken label by label; each label is
brought into one form, whatever shapes its letters have, and coded where it still is beyond
ASCII. -/

namespace StaticSite.HostName

def maxLabelLength : Nat := 63

/-- The points that divide labels, beside the one of ASCII. -/
def otherPoints : List Nat :=
  [0x3002, 0xff0e, 0xff61]

/-- The labels of a name. -/
def labels (name : Text) : List Text :=
  Text.splitOn '.' (name.map fun c => if otherPoints.contains c.toNat then '.' else c)

def isAscii (t : Text) : Bool :=
  t.all (·.toNat < 0x80)

/-! ### One form for all spellings -/

/-- Ranges of characters that do not count. -/
def uncounted : List (Nat × Nat) :=
  [(0xad, 0xad), (0x34f, 0x34f), (0x1806, 0x1806), (0x180b, 0x180d), (0x200b, 0x200d),
    (0x2060, 0x2060), (0xfe00, 0xfe0f), (0xfeff, 0xfeff)]

/-- Letters that have more than their small letter to be compared by. -/
def foldings : List (Nat × Text) :=
  [(0xdf, ['s', 's']), (0x1e9e, ['s', 's']), (0x345, ['ι']), (0x3c2, ['σ']), (0x3f9, ['σ'])]

/-- What a letter is compared by, whatever stands around it. -/
def fold (c : Char) : Text :=
  (foldings.lookup c.toNat).getD (Text.lowerChar [] c [])

/-- Ranges of characters that no label may hold: controls, spaces, marks of direction, and what is
for private use or for none. -/
def forbidden : List (Nat × Nat) :=
  [(0x80, 0xa0), (0x340, 0x341), (0x6dd, 0x6dd), (0x70f, 0x70f), (0x1680, 0x1680),
    (0x180e, 0x180e), (0x2000, 0x200f), (0x2028, 0x202f), (0x205f, 0x2063), (0x206a, 0x206f),
    (0x2ff0, 0x2ffb), (0x3000, 0x3000), (0xe000, 0xf8ff), (0xfdd0, 0xfdef), (0xfeff, 0xfeff),
    (0xfff9, 0xffff), (0x1d173, 0x1d17a), (0xe0001, 0xe0001), (0xe0020, 0xe007f),
    (0xf0000, 0x10ffff)]

/-- Whether no label may hold a character. The last two of each plane are none. -/
def isForbidden (c : Char) : Bool :=
  0xfffe ≤ c.toNat % 0x10000 || Text.isIn forbidden c

/-- The form of a label by which it is compared, if it has one. -/
def prepare? (label : Text) : Option Text :=
  let counted := label.filter (!Text.isIn uncounted ·)
  let prepared := Text.normalize ((Text.decompose counted).flatMap fold)
  if prepared.any isForbidden || !Text.isOneWay prepared then none else some prepared

/-! ### Labels in ASCII -/

/-- What the code of a label beyond ASCII begins with. -/
def codeStart : Text := "xn--".toList

/-- A label in ASCII, if it is neither empty nor too long. -/
def sized? (label : Text) : Option Text :=
  if label = [] ∨ maxLabelLength < label.length then none else some label

/-- A label in ASCII. One that is so from the start keeps its letters as they are; what looks like a
code must not be beyond ASCII. -/
def label? (label : Text) : Option Text :=
  if isAscii label then sized? label
  else match prepare? label with
    | none => none
    | some prepared =>
        if isAscii prepared then sized? prepared
        else if codeStart.isPrefixOf prepared then none
        else sized? (codeStart ++ Punycode.encode prepared)

/-- The name in ASCII, if all its labels can be put so. A point may stand at its end. -/
def toAscii? (name : Text) : Option Text :=
  if isAscii name then some name
  else
    let parts := labels name
    let closed := parts.getLast? = some []
    ((if closed then parts.dropLast else parts).mapM label?).map fun parts =>
      Text.joinWith ['.'] parts ++ if closed then ['.'] else []

end StaticSite.HostName
