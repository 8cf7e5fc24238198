import StaticSite.Text.Blank

/-! Integers in decimal, read with single underscores between digits. Neither a reader nor a writer
of such texts takes more than a fixed number of digits, since both are quadratic in their number. -/

namespace StaticSite.Number

/-- The most digits that a text of an integer may have. -/
def maxDigits : Nat := 4300

/-- The digits of a text in which single underscores may stand between digits. -/
def ungroup? : Text → Option Text
  | [] => none
  | c :: rest =>
      if Text.isDigit c then
        match rest with
        | [] => some [c]
        | d :: after =>
            if d = '_' then (ungroup? after).map (c :: ·)
            else (ungroup? (d :: after)).map (c :: ·)
      else none

/-- The sign in front of a text, as whether it is a minus, and the rest. -/
def cutSign : Text → Bool × Text
  | '-' :: rest => (true, rest)
  | '+' :: rest => (false, rest)
  | t => (false, t)

def signed (negative : Bool) (n : Nat) : Int :=
  if negative then -(n : Int) else n

/-- The integer that a text denotes: an optional sign and grouped digits between white space, and no
more digits than are allowed. The digits are those of ASCII, since the texts read here hold no
other decimal digits. -/
def readInt? (t : Text) : Option Int :=
  let (negative, body) := cutSign (t.trim Text.isWhiteSpace)
  match ungroup? body with
  | some digits =>
      if digits.length ≤ maxDigits then some (signed negative (Text.natOfDigits digits)) else none
  | none => none

/-- The least natural number with more digits than are allowed. -/
def tooGreat : Nat := Nat.pow 10 maxDigits

/-- The text of an integer, if it has no more digits than are allowed. -/
def write? (n : Int) : Option Text :=
  if n.natAbs < tooGreat then some (Text.ofInt n) else none

/-- What is said of an integer with more digits than are allowed. -/
def tooLongToWrite : Text :=
  ("Exceeds the limit (4300 digits) for integer string conversion; " ++
    "use sys.set_int_max_str_digits() to increase the limit").toList

end StaticSite.Number
