import StaticSite.Number.Binary64
import StaticSite.Number.Grouped
import StaticSite.Settings.Basic
import StaticSite.Settings.Misuse

/-! Reading a setting from a value of any kind: which values are accepted, what they mean, and why
the others are refused. -/

namespace StaticSite

/-- A value offered for a setting. -/
inductive Value where
  | null
  | bool (b : Bool)
  | int (n : Int)
  | real (x : Number.Binary64)
  | text (t : Text)
  | list (items : List Value)
  | object (members : List (Text × Value))
  deriving Inhabited

inductive Fault where
  | intType
  | intParsing
  | intFromFraction
  | intParsingSize
  | notFinite
  | boolParsing
  | boolType
  | stringType
  | pathType
  | extraForbidden
  | frozen
  deriving DecidableEq, Repr

namespace Fault

def kind : Fault → Text
  | intType => "int_type".toList
  | intParsing => "int_parsing".toList
  | intFromFraction => "int_from_float".toList
  | intParsingSize => "int_parsing_size".toList
  | notFinite => "finite_number".toList
  | boolParsing => "bool_parsing".toList
  | boolType => "bool_type".toList
  | stringType => "string_type".toList
  | pathType => "path_type".toList
  | extraForbidden => "extra_forbidden".toList
  | frozen => "frozen_instance".toList

def message : Fault → Text
  | intType => "Input should be a valid integer".toList
  | intParsing =>
      "Input should be a valid integer, unable to parse string as an integer".toList
  | intFromFraction =>
      "Input should be a valid integer, got a number with a fractional part".toList
  | intParsingSize =>
      "Unable to parse input string as an integer, exceeded maximum size".toList
  | notFinite => "Input should be a finite number".toList
  | boolParsing => "Input should be a valid boolean, unable to interpret input".toList
  | boolType => "Input should be a valid boolean".toList
  | stringType => "Input should be a valid string".toList
  | pathType => "Input is not a valid path for <class 'pathlib.Path'>".toList
  | extraForbidden => "Extra inputs are not permitted".toList
  | frozen => "Instance is frozen".toList

end Fault

namespace Value

/-- A text is itself. -/
def readText : Value → Except Fault Text
  | text t => .ok t
  | _ => .error .stringType

/-- A path is a text, kept in plain form. -/
def readPath : Value → Except Fault Text
  | text t => .ok (Path.plain t)
  | _ => .error .pathType

/-! ### Integers in texts -/

/-- The most digits of an integer in plain form. -/
def maxPlainDigits : Nat := 4300

/-- The integer that a text denotes in plain form: digits, of which the first is zero only if it
stands alone, after a minus or nothing. More digits than are read are a fault of their own,
whatever follows them. -/
def readPlainInt (t : Text) : Except Fault Int :=
  let (negative, body) := match t with
    | '-' :: rest => (true, rest)
    | _ => (false, t)
  let digits := body.takeWhile Text.isDigit
  if digits = [] then .error .intParsing
  else if digits.head? = some '0' then
    if body = ['0'] then .ok 0 else .error .intParsing
  else if maxPlainDigits < digits.length then .error .intParsingSize
  else if digits.length < body.length then .error .intParsing
  else .ok (Number.signed negative (Text.natOfDigits digits))

/-- The text before a point that only zeros follow, at least one; any other text as it is. -/
def dropZeroFraction (t : Text) : Text :=
  match Text.cutFirst? '.' t with
  | some (before, after) => if after ≠ [] ∧ after.all (· == '0') then before else t
  | none => t

/-- Whether a character is a zero or an underscore. -/
def isFiller (c : Char) : Bool :=
  c == '0' || c == '_'

/-- The text without the zeros it begins with and the underscores among them. The last of them is
kept if nothing or a point follows. -/
def dropLeadingZeros (t : Text) : Text :=
  match t with
  | '0' :: _ =>
      let last := (t.takeWhile isFiller).getLast?.toList
      match t.dropWhile isFiller with
      | [] => last
      | '.' :: rest => last ++ '.' :: rest
      | rest => rest
  | _ => t

/-- The text without underscores, if each stands alone and between other characters. -/
def dropUnderscores (t : Text) : Text :=
  let parts := Text.splitOn '_' t
  if parts.contains [] then t else parts.flatten

/-- The plain form of a text that begins with a digit. -/
def tidyDigits? (t : Text) : Option Text :=
  if (t.head?.filter Text.isDigit).isSome then
    some (dropUnderscores (dropZeroFraction (dropLeadingZeros t)))
  else none

/-- The plain form of a text that is wider: between white space a sign, zeros in front, underscores
between digits and a fraction of zeros. What stands behind the zeros in front may have a sign of
its own. -/
def tidy? (t : Text) : Option Text :=
  match t.trim Text.isWhiteSpace with
  | '+' :: rest => tidyDigits? rest
  | '-' :: rest => (tidyDigits? rest).map ('-' :: ·)
  | rest => tidyDigits? rest

/-- The integer that a text denotes, in plain form or in a wider one. Only in plain form is there a
difference between a text with too many digits and one that is no integer. -/
def readIntText (t : Text) : Except Fault Int :=
  match readPlainInt t with
  | .ok n => .ok n
  | .error .intParsingSize => .error .intParsingSize
  | .error _ =>
      match (tidy? t).map readPlainInt with
      | some (.ok n) => .ok n
      | _ => .error .intParsing

/-- Whether an integer fits into a word of 64 bits. -/
def fitsWord (n : Int) : Bool :=
  -0x8000000000000000 ≤ n && n < 0x8000000000000000

/-- The integer that a number is. Beyond the words of 64 bits it is refused, since there a number
with a fraction is none that it could stand for. -/
def readIntReal (x : Number.Binary64) : Except Fault Int :=
  if !x.isFinite then .error .notFinite
  else match x.toInt? with
  | none => .error .intFromFraction
  | some n => if -0x8000000000000000 < n ∧ n < 0x8000000000000000 then .ok n else .error .intParsingSize

/-- An integer is a whole number, a truth value, or a text that denotes one. -/
def readInt : Value → Except Fault Int
  | int n => .ok n
  | bool b => .ok (if b then 1 else 0)
  | real x => readIntReal x
  | text t => readIntText t
  | _ => .error .intType

def trueTexts : List Text :=
  ["1", "t", "y", "on", "yes", "true"].map String.toList

def falseTexts : List Text :=
  ["0", "f", "n", "no", "off", "false"].map String.toList

/-- The truth value of an integer. One that fits into no word is not taken for an integer. -/
def boolOfInt (n : Int) : Except Fault Bool :=
  if n = 1 then .ok true
  else if n = 0 then .ok false
  else .error (if fitsWord n then .boolParsing else .boolType)

/-- A truth value is one of the two, zero or one, or a word for either in any case. -/
def readBool : Value → Except Fault Bool
  | bool b => .ok b
  | int n => boolOfInt n
  | real x =>
      match readIntReal x with
      | .ok n => boolOfInt n
      | .error _ => .error .boolType
  | text t =>
      let word := t.asciiLower
      if trueTexts.contains word then .ok true
      else if falseTexts.contains word then .ok false
      else .error .boolParsing
  | _ => .error .boolType

/-! ### What kind of value it is -/

def kindName : Value → Text
  | null => "NoneType".toList
  | bool _ => "bool".toList
  | int _ => "int".toList
  | real _ => "float".toList
  | text _ => "str".toList
  | list _ => "list".toList
  | object _ => "dict".toList

/-- Whether a value counts as true where any value may stand: it is not nothing, zero or empty. -/
def isTrue : Value → Bool
  | null => false
  | bool b => b
  | int n => n != 0
  | real x => x.mantissa != 0
  | text t => !t.isEmpty
  | list items => !items.isEmpty
  | object members => !members.isEmpty

/-- What a value is made of, where it is made of parts: a text of its characters, an object of its
names. -/
def parts? : Value → Option (List Value)
  | text t => some (t.map fun c => text [c])
  | list items => some items
  | object members => some (members.map fun (name, _) => text name)
  | _ => none

/-! ### A value as a text -/

mutual

/-- A value as it is shown within others: a text between quotes. -/
def quoted : Value → Text
  | null => "None".toList
  | bool b => if b then "True".toList else "False".toList
  | int n => Text.ofInt n
  | real x => x.text
  | text t => t.quoted
  | list items => '[' :: Text.joinWith ", ".toList (quotedItems items) ++ [']']
  | object members => '{' :: Text.joinWith ", ".toList (quotedMembers members) ++ ['}']

def quotedItems : List Value → List Text
  | [] => []
  | v :: rest => v.quoted :: quotedItems rest

/-- The members of an object as they are shown. -/
def quotedMembers : List (Text × Value) → List Text
  | [] => []
  | (name, v) :: rest => (name.quoted ++ ": ".toList ++ v.quoted) :: quotedMembers rest

end

/-- A value as it is shown alone: a text as it is. -/
def shown : Value → Text
  | text t => t
  | v => v.quoted

end Value

end StaticSite
