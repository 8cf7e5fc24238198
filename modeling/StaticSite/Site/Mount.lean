import StaticSite.Number.Grouped
import StaticSite.Text.Basic

/-! Where a site stands: a pattern of literal text and parameters such as `{name:int}`, below which
all paths belong to the site. -/

namespace StaticSite

/-- What a parameter of a mount stands for. -/
inductive Parameter where
  | segment
  | path
  | integer
  | decimal
  | uuid
  deriving DecidableEq, Repr

inductive MountPiece where
  | literal (c : Char)
  | parameter (name : Text) (kind : Parameter)
  deriving DecidableEq, Repr

inductive MountError where
  | notRouted
  | unknownConvertor (name : Text)
  | duplicated (names : List Text) (path : Text)
  deriving DecidableEq, Repr

def MountError.message : MountError → Text
  | notRouted => "Routed paths must start with '/'".toList
  | unknownConvertor name => "Unknown path convertor '".toList ++ name ++ ['\'']
  | duplicated names path =>
      "Duplicated param name".toList ++ (if 1 < names.length then ['s'] else []) ++ [' '] ++
        Text.joinWith ", ".toList names ++ " at path ".toList ++ path

namespace Parameter

/-- The kind of parameter that a word names; without a word it is a segment. -/
def ofWord? (word : Text) : Option Parameter :=
  [("str", segment), ("path", path), ("int", integer), ("float", decimal), ("uuid", uuid)].findSome?
    fun (name, kind) => if name.toList = word then some kind else none

/-- The lengths from `most` down to `least`. -/
def downTo (least most : Nat) : List Nat :=
  ((List.range (most + 1)).filter (least ≤ ·)).reverse

/-- What is left of a text after so many digits in hexadecimal. -/
def dropHex? : Nat → Text → Option Text
  | 0, t => some t
  | _ + 1, [] => none
  | n + 1, c :: rest => if (Text.hexValue? c).isSome then dropHex? n rest else none

def dropHyphen (t : Text) : Text :=
  match t with
  | '-' :: rest => rest
  | _ => t

/-- What is left of a text after a universal identifier, in which hyphens may be missing. -/
def dropUuid? (t : Text) : Option Text := do
  let t ← dropHex? 8 t
  let t ← dropHex? 4 (dropHyphen t)
  let t ← dropHex? 4 (dropHyphen t)
  let t ← dropHex? 4 (dropHyphen t)
  dropHex? 12 (dropHyphen t)

/-- How many characters of a text a parameter may take, in the order in which this is tried: the
more the better. -/
def lengths (p : Parameter) (t : Text) : List Nat :=
  match p with
  | segment => downTo 1 (t.takeWhile (· != '/')).length
  | path => downTo 0 (t.takeWhile (· != '\n')).length
  | integer => downTo 1 (t.takeWhile Text.isDigit).length
  | decimal =>
      let whole := (t.takeWhile Text.isDigit).length
      let fraction := match t.drop whole with
        | '.' :: rest => downTo (whole + 2) (whole + 1 + (rest.takeWhile Text.isDigit).length)
        | _ => []
      (if whole = 0 then [] else fraction) ++ downTo 1 whole
  | uuid => (dropUuid? t).toList.map fun rest => t.length - rest.length

end Parameter

/-- The place of a site: its pattern. -/
structure Mount where
  pieces : List MountPiece
  deriving DecidableEq, Repr

namespace Mount

/-- Whether a character may begin the name of a parameter. -/
def beginsWord (c : Char) : Bool :=
  c.isAlpha || c == '_'

/-- Whether a character may stand in the name of a parameter. -/
def inWord (c : Char) : Bool :=
  beginsWord c || Text.isDigit c

/-- The word that a text begins with, and the rest. -/
def cutWord? (t : Text) : Option (Text × Text) :=
  match t with
  | c :: _ => if beginsWord c then some (t.takeWhile inWord, t.dropWhile inWord) else none
  | [] => none

/-- The name, the word for the kind and the rest of a parameter, the opening brace having been
passed. -/
def cutParameter? (t : Text) : Option (Text × Text × Text) :=
  match cutWord? t with
  | none => none
  | some (name, '}' :: rest) => some (name, "str".toList, rest)
  | some (name, ':' :: rest) =>
      match cutWord? rest with
      | some (word, '}' :: rest) => some (name, word, rest)
      | _ => none
  | some _ => none

/-- The pieces of a pattern. A brace that begins no parameter is literal. The count bounds the
characters. -/
def piecesWithin : Nat → Text → Except MountError (List MountPiece)
  | 0, _ => .ok []
  | _ + 1, [] => .ok []
  | count + 1, c :: rest =>
      match if c = '{' then cutParameter? rest else none with
      | some (name, word, after) =>
          match Parameter.ofWord? word with
          | none => .error (.unknownConvertor word)
          | some kind => (piecesWithin count after).map (.parameter name kind :: ·)
      | none => (piecesWithin count rest).map (.literal c :: ·)

def names (pieces : List MountPiece) : List Text :=
  pieces.filterMap fun
    | .parameter name _ => some name
    | .literal _ => none

/-- The name under which the rest of a path is known. -/
def restName : Text := "path".toList

/-- The names that are used more than once, in order. -/
def duplicates (names : List Text) : List Text :=
  ((names.filter fun n => 1 < names.count n).eraseDups).mergeSort fun a b => !(b < a)

/-- A prefix without the slashes at its end. -/
def trimmed (urlPrefix : Text) : Text :=
  Text.trimEnd (· == '/') urlPrefix

/-- The place of a site below a prefix. -/
def ofPrefix (urlPrefix : Text) : Except MountError Mount :=
  if urlPrefix = [] ∨ urlPrefix.head? = some '/' then
    let path := trimmed urlPrefix
    match piecesWithin path.length path with
    | .error e => .error e
    | .ok pieces =>
        match duplicates (names pieces ++ [restName]) with
        | [] => .ok ⟨pieces⟩
        | repeated => .error (.duplicated repeated (path ++ "/\x7bpath:path\x7d".toList))
  else .error .notRouted

/-- The values of parameters in order, and the rest of a path below a mount. -/
structure Match where
  values : List (Parameter × Text)
  rest : Text
  deriving DecidableEq, Repr

/-- The rest of a path after a slash. It runs to the end of the text or of a last line. -/
def matchRest? (t : Text) : Option Match :=
  match t with
  | '/' :: rest =>
      let line := rest.takeWhile (· != '\n')
      if rest.drop line.length = [] ∨ rest.drop line.length = ['\n'] then some ⟨[], line⟩ else none
  | _ => none

/-- The first way in which a path fits the pieces of a pattern. -/
def matchPieces? : List MountPiece → Text → Option Match
  | [], t => matchRest? t
  | .literal c :: pieces, t =>
      match t with
      | d :: rest => if d = c then matchPieces? pieces rest else none
      | [] => none
  | .parameter _ kind :: pieces, t =>
      (kind.lengths t).findSome? fun n =>
        (matchPieces? pieces (t.drop n)).map fun m =>
          { m with values := (kind, t.take n) :: m.values }

/-- The first value of a parameter for integers that has more digits than are read. -/
def excess? (values : List (Parameter × Text)) : Option Nat :=
  (values.find? fun (kind, value) => kind = .integer ∧ Number.maxDigits < value.length).map
    (·.2.length)

/-- How a path fits a mount: the rest of it, or the number of digits of an integer that is too
long to be read. -/
def match? (m : Mount) (t : Text) : Except Nat (Option Text) :=
  match matchPieces? m.pieces t with
  | none => .ok none
  | some found =>
      match excess? found.values with
      | some count => .error count
      | none => .ok (some found.rest)

end Mount
end StaticSite
