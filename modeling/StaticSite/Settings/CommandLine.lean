import StaticSite.Settings.Options

/-! The words of a command line: options `--name value` or `--name=value`, which name the fields. A
name may be cut short where no other begins so. -/

namespace StaticSite

/-- How a command line ends the program before any settings are read: it asks for help, or it is
not understood. -/
inductive CommandLineEnd where
  | help
  | notUnderstood
  deriving DecidableEq, Repr

def CommandLineEnd.code : CommandLineEnd → Nat
  | help => 0
  | notUnderstood => 2

namespace CommandLine

/-- The options: two ask for help, the others name fields. -/
def options : List (Text × Option Field) :=
  ("-h".toList, none) :: ("--help".toList, none) ::
    Field.all.map fun f => ("--".toList ++ f.name, some f)

/-- The text that stands for nothing. -/
def nullWord : Text := "null".toList

/-- Whether a character ends the name of an option. -/
def endsName (c : Char) : Bool :=
  c == '=' || Text.isBlank c

/-- A word with the name of the option that it begins with in small letters; what follows the name
counts up to the end of the line only. -/
def foldWord (word : Text) : Text :=
  let dashes := (word.take 2).takeWhile (· == '-')
  let after := word.drop dashes.length
  let name := after.takeWhile (!endsName ·)
  if dashes = [] ∨ (name = [] ∧ dashes.length < 2) then word
  else
    let rest := after.dropWhile (!endsName ·)
    dashes ++ Text.lower name ++ rest.takeWhile (· != '\n')

/-- Whether a word is a number below zero, with a point or without. -/
def isNegativeNumber : Text → Bool
  | '-' :: digits =>
      match Text.cutFirst? '.' digits with
      | none => digits ≠ [] && digits.all Text.isDigit
      | some (whole, fraction) =>
          whole.all Text.isDigit && fraction ≠ [] && fraction.all Text.isDigit
  | _ => false

/-- What a word is: an option with the value that is given in it, if any, something else, what looks
like an option and is none, or what may be more than one option. -/
inductive Word where
  | option (target : Option Field) (value : Option Text)
  | plain
  | unknown
  | ambiguous
  deriving DecidableEq, Repr

/-- The name and the value of a word that holds both. -/
def cutValue (word : Text) : Text × Option Text :=
  match Text.cutFirst? '=' word with
  | some (name, value) => (name, some value)
  | none => (word, none)

def classify (word : Text) : Word :=
  match word with
  | '-' :: _ :: _ =>
      let (name, value) := cutValue word
      match options.lookup word with
      | some target => .option target none
      | none =>
          match options.lookup name with
          | some target => .option target value
          | none =>
              match options.filter fun (full, _) => name.isPrefixOf full && 2 < name.length with
              | [(_, target)] => .option target value
              | _ :: _ => .ambiguous
              | [] => if isNegativeNumber word || word.contains ' ' then .plain else .unknown
  | _ => .plain

/-- The values that words give to fields, in their order. `clean` tells whether all words so far
were understood; one that was not ends the reading only after the others have been read. -/
def readFrom (clean : Bool) : List Text → Except CommandLineEnd (List (Field × Text))
  | [] => if clean then .ok [] else .error .notUnderstood
  | word :: rest =>
      match classify word with
      | .option none none => .error .help
      | .option none (some _) => .error .notUnderstood
      | .option (some f) (some value) => (readFrom clean rest).map ((f, value) :: ·)
      | .option (some f) none =>
          match rest with
          | next :: rest =>
              if classify next = .plain then (readFrom clean rest).map ((f, next) :: ·)
              else .error .notUnderstood
          | [] => .error .notUnderstood
      | _ => readFrom false rest

/-- The values that the words of a command line give to fields, in their order. -/
def read (words : List Text) : Except CommandLineEnd (List (Field × Text)) :=
  if words.any (classify · = .ambiguous) then .error .notUnderstood else readFrom true words

/-- The value of a field: the last one given to it. -/
def value? (given : List (Field × Text)) (f : Field) : Option Value :=
  (given.reverse.lookup f).map fun t => if t = nullWord then .null else .text t

end CommandLine
end StaticSite
