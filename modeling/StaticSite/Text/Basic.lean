/-! Text as a list of characters: cutting, splitting, joining and trimming. Every other module
works on this type; a `String` appears only as a literal. -/

namespace StaticSite

/-- A text, character by character. -/
abbrev Text := List Char

namespace Text

/-- The parts between the occurrences of `sep`, one more than there are occurrences. -/
def splitOn (sep : Char) : Text → List Text
  | [] => [[]]
  | c :: rest =>
      if c = sep then [] :: splitOn sep rest
      else match splitOn sep rest with
        | [] => [[c]]
        | part :: parts => (c :: part) :: parts

/-- The parts with `sep` between each two of them. -/
def joinWith (sep : Text) : List Text → Text
  | [] => []
  | [part] => part
  | part :: next :: parts => part ++ sep ++ joinWith sep (next :: parts)

/-- What stands before and after the first `sep`. -/
def cutFirst? (sep : Char) : Text → Option (Text × Text)
  | [] => none
  | c :: rest =>
      if c = sep then some ([], rest)
      else (cutFirst? sep rest).map fun (before, after) => (c :: before, after)

/-- What stands before and after the last `sep`. -/
def cutLast? (sep : Char) : Text → Option (Text × Text)
  | [] => none
  | c :: rest =>
      match cutLast? sep rest with
      | some (before, after) => some (c :: before, after)
      | none => if c = sep then some ([], rest) else none

/-- The text without what `drop` accepts at its end. -/
def trimEnd (drop : Char → Bool) (t : Text) : Text :=
  (t.reverse.dropWhile drop).reverse

/-- The text without what `drop` accepts at either end. -/
def trim (drop : Char → Bool) (t : Text) : Text :=
  trimEnd drop (t.dropWhile drop)

/-- Whether `tail` stands at the end of the text. -/
def endsWith (t tail : Text) : Bool :=
  tail.reverse.isPrefixOf t.reverse

/-- Letters `A` to `Z` in lower case, all else as it is. -/
def asciiLower (t : Text) : Text :=
  t.map Char.toLower

/-- A digit of a base up to sixteen, in lower case. -/
def digitChar (d : Nat) : Char :=
  if d < 10 then Char.ofNat (48 + d) else Char.ofNat (87 + d)

/-- The digits of `n` in the given base, at least `width` of them. -/
def digitsIn (base width : Nat) (n : Nat) : Text :=
  let digits := Nat.toDigits base n
  List.replicate (width - digits.length) '0' ++ digits

/-- A natural number in decimal, without leading zeros. -/
def ofNat (n : Nat) : Text :=
  Nat.toDigits 10 n

def ofInt : Int → Text
  | .ofNat n => ofNat n
  | .negSucc n => '-' :: ofNat (n + 1)

/-- The value of a hexadecimal digit in either case. -/
def hexValue? (c : Char) : Option Nat :=
  if '0' ≤ c ∧ c ≤ '9' then some (c.toNat - 48)
  else if 'a' ≤ c ∧ c ≤ 'f' then some (c.toNat - 87)
  else if 'A' ≤ c ∧ c ≤ 'F' then some (c.toNat - 55)
  else none

/-- Whether a character is one of the ten decimal digits. -/
def isDigit (c : Char) : Bool :=
  '0' ≤ c && c ≤ '9'

/-- The number that a run of decimal digits denotes; other characters count as their distance
from the digit zero, so callers give digits only. -/
def natOfDigits (digits : Text) : Nat :=
  digits.foldl (fun n c => 10 * n + (c.toNat - 48)) 0

end Text

end StaticSite
