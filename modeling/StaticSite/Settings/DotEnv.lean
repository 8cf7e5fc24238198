import StaticSite.Text.Blank

/-! Files of assignments, one on a line: `NAME=value`, after `export` or not, the value bare or
between quotes that may span lines. A line that is no assignment is passed over. References
`${NAME}` and `${NAME:-default}` in values are replaced once all values are read. -/

namespace StaticSite.DotEnv

/-- The text without the mark with which a file may begin. -/
def dropByteOrderMark (t : Text) : Text :=
  match t with
  | c :: rest => if c.toNat = 0xfeff then rest else t
  | [] => []

/-- The text with each line ending, of one or two characters, as one newline. -/
def unifyNewlines : Text → Text
  | [] => []
  | '\r' :: '\n' :: rest => '\n' :: unifyNewlines rest
  | c :: rest => (if c = '\r' then '\n' else c) :: unifyNewlines rest

/-- Whether a character is a blank inside a line. -/
def isLineBlank (c : Char) : Bool :=
  Text.isBlank c && c != '\n'

/-- Whether a character may stand in a bare name. -/
def isNameChar (c : Char) : Bool :=
  c != '=' && c != '#' && !Text.isBlank c

/-- What follows `export` and at least one blank; else the whole text. -/
def dropExport (t : Text) : Text :=
  match "export".toList.isPrefixOf? t with
  | some rest =>
      match rest with
      | c :: _ => if isLineBlank c then rest.dropWhile isLineBlank else t
      | [] => t
  | none => t

/-- The text between quotes, as it is written, and what follows the closing quote, the opening one
having been passed. A character after a backslash does not close. -/
def cutQuoted? (quote : Char) : Text → Option (Text × Text)
  | [] => none
  | c :: rest =>
      if c = quote then some ([], rest)
      else if c = '\\' then
        match rest with
        | [] => none
        | d :: after => (cutQuoted? quote after).map fun (body, tail) => (c :: d :: body, tail)
      else (cutQuoted? quote rest).map fun (body, tail) => (c :: body, tail)

/-- The characters that a backslash stands before in single quotes. -/
def singleEscapes : List (Char × Char) :=
  [('\\', '\\'), ('\'', '\'')]

/-- The characters that a backslash stands before in double quotes, with what they mean. -/
def doubleEscapes : List (Char × Char) :=
  [('\\', '\\'), ('\'', '\''), ('"', '"'), ('a', '\x07'), ('b', '\x08'), ('f', '\x0c'),
    ('n', '\n'), ('r', '\r'), ('t', '\t'), ('v', '\x0b')]

/-- The text with its escapes replaced; a backslash before another character stays. -/
def unescape (escapes : List (Char × Char)) : Text → Text
  | [] => []
  | [c] => [c]
  | c :: d :: rest =>
      if c = '\\' then
        match escapes.lookup d with
        | some meant => meant :: unescape escapes rest
        | none => c :: unescape escapes (d :: rest)
      else c :: unescape escapes (d :: rest)

/-- The text before the first blanks that a `#` follows; `blanks` holds those just passed, in
reverse. -/
def cutComment (blanks : Text) : Text → Text
  | [] => blanks.reverse
  | c :: rest =>
      if c = '#' ∧ blanks ≠ [] then []
      else if Text.isBlank c then cutComment (c :: blanks) rest
      else blanks.reverse ++ c :: cutComment [] rest

/-- The value of a bare text up to the end of the line. -/
def bareValue (line : Text) : Text :=
  Text.trimEnd Text.isBlank (cutComment [] line)

/-- An assignment: a name and, if there is an equals sign, the value. -/
structure Assignment where
  name : Text
  value : Option Text
  deriving DecidableEq, Repr

/-- The line that a text begins with, and the text from its end on. -/
def cutLine (t : Text) : Text × Text :=
  (t.takeWhile (· != '\n'), t.dropWhile (· != '\n'))

def afterLine (t : Text) : Text :=
  (t.dropWhile (· != '\n')).drop 1

/-- The name that a text begins with, or none before a comment, and the rest. A text that begins
with neither is refused, with what is left of it. -/
def readName (t : Text) : Except Text (Option Text × Text) :=
  match t with
  | [] => .error t
  | c :: rest =>
      if c = '#' then .ok (none, t)
      else if c = '\'' then
        match Text.cutFirst? '\'' rest with
        | some (name, after) => if name = [] then .error t else .ok (some name, after)
        | none => .error t
      else
        let name := t.takeWhile isNameChar
        if name = [] then .error t else .ok (some name, t.dropWhile isNameChar)

/-- The value after an equals sign, and the rest. Blanks before a `#` make it a comment. -/
def readValue (t : Text) : Except Text (Text × Text) :=
  let start := t.dropWhile isLineBlank
  match start with
  | [] => .ok ([], start)
  | c :: rest =>
      if c = '\'' then
        match cutQuoted? '\'' rest with
        | some (body, after) => .ok (unescape singleEscapes body, after)
        | none => .error start
      else if c = '"' then
        match cutQuoted? '"' rest with
        | some (body, after) => .ok (unescape doubleEscapes body, after)
        | none => .error start
      else if c = '#' ∧ start.length < t.length then .ok ([], start)
      else
        let (line, after) := cutLine start
        .ok (bareValue line, after)

/-- What follows the end of the line, before which only blanks and a comment may stand. -/
def readLineEnd (t : Text) : Except Text Text :=
  let rest := t.dropWhile isLineBlank
  let rest := match rest with
    | '#' :: _ => (cutLine rest).2
    | _ => rest
  match rest with
  | [] => .ok []
  | c :: after => if c = '\n' then .ok after else .error rest

/-- The assignment that a text begins with, if it begins with one, and the text after it. -/
def readAssignment (t : Text) : Except Text (Option Assignment × Text) := do
  let (name, rest) ← readName (dropExport t)
  let rest := rest.dropWhile isLineBlank
  let (value, rest) ← match rest with
    | '=' :: after => (readValue after).map fun (value, rest) => (some value, rest)
    | _ => pure (none, rest)
  let rest ← readLineEnd rest
  return (name.map fun name => ⟨name, value⟩, rest)

/-- The assignments of a text, of which so many are looked for at most. After one that cannot be
read, reading goes on at the next line. -/
def readAll : Nat → Text → List Assignment
  | 0, _ => []
  | count + 1, t =>
      match t.dropWhile Text.isBlank with
      | [] => []
      | start =>
          match readAssignment start with
          | .ok (found, rest) => found.toList ++ readAll count rest
          | .error left => readAll count (afterLine left)

/-- The assignments of a text. Each takes up a character at least. -/
def assignments (t : Text) : List Assignment :=
  readAll t.length t

/-! ### References -/

/-- The reference that a text begins with, after the dollar sign and the brace: the name, the
default and the rest. -/
def cutReference? (t : Text) : Option (Text × Text × Text) :=
  let name := t.takeWhile fun c => c != '}' && c != ':'
  match t.dropWhile fun c => c != '}' && c != ':' with
  | '}' :: rest => some (name, [], rest)
  | ':' :: '-' :: after =>
      match after.dropWhile (· != '}') with
      | _ :: rest => some (name, after.takeWhile (· != '}'), rest)
      | [] => none
  | _ => none

/-- The text with its references replaced by what `find?` gives for their names, or else by their
defaults. What is put in is not looked at again. The count bounds the characters. -/
def expandWithin (find? : Text → Option Text) : Nat → Text → Text
  | 0, t => t
  | _ + 1, [] => []
  | count + 1, c :: rest =>
      match c, rest with
      | '$', '{' :: after =>
          match cutReference? after with
          | some (name, fallback, tail) =>
              (find? name).getD fallback ++ expandWithin find? count tail
          | none => c :: expandWithin find? count rest
      | _, _ => c :: expandWithin find? count rest

def expand (find? : Text → Option Text) (t : Text) : Text :=
  expandWithin find? t.length t

/-- The value of a name: that of the last assignment to it, in the order given. -/
def lastOf? (name : Text) (known : List Assignment) : Option (Option Text) :=
  (known.reverse.find? (·.name == name)).map (·.value)

/-- What a reference to a name stands for: what was assigned to it before, or else the variable of
the environment. A name without a value stands for the empty text. -/
def referent (environment : List (Text × Text)) (known : List Assignment) (name : Text) :
    Option Text :=
  match lastOf? name known with
  | some value => some (value.getD [])
  | none => environment.lookup name

/-- The assignments with the references in their values replaced, those of `known` coming
before them. -/
def expandAll (environment : List (Text × Text)) (known : List Assignment) :
    List Assignment → List Assignment
  | [] => known
  | a :: rest =>
      let value := a.value.map (expand (referent environment known))
      expandAll environment (known ++ [⟨a.name, value⟩]) rest

/-- The assignments of a text, read in a given environment. -/
def read (environment : List (Text × Text)) (t : Text) : List Assignment :=
  expandAll environment [] (assignments (unifyNewlines (dropByteOrderMark t)))

/-- The assignments with one more, which takes the place of one to the same name. -/
def assign (known : List Assignment) (a : Assignment) : List Assignment :=
  if known.any (·.name == a.name) then known.map fun b => if b.name == a.name then a else b
  else known ++ [a]

/-- One assignment for each name, the last, in the order in which the names first occur. -/
def collapse (as : List Assignment) : List Assignment :=
  as.foldl assign []

end StaticSite.DotEnv
