import StaticSite.Text.Utf8

/-! A tree of files: what stands at each location, and who may do what with it. A location is the
list of names from the top directory downwards; a path is what a text such as `a/../b` says before
it is followed. -/

namespace StaticSite

/-- The name of an entry in its directory. -/
abbrev Name := Text

/-- A place in the tree, by the names from the top directory down to it. -/
abbrev Location := List Name

/-- A path as the parts between its slashes. -/
abbrev Path := List Text

/-- What may stand at a location. Times are in nanoseconds from the beginning of 1970. -/
inductive Node where
  | file (content : List UInt8) (modified : Int)
  | directory
  | link (target : Text)
  | pipe
  deriving DecidableEq, Repr

/-- A node with its permission bits. -/
structure Entry where
  node : Node
  mode : Nat
  deriving DecidableEq, Repr

/-- The tree, as the entries below the top directory. The first entry of a location counts. -/
structure FileSystem where
  entries : List (Location × Entry)
  deriving Repr

/-- A process that no permission bit restrains, or one to which the bits for others apply. -/
inductive Caller where
  | superuser
  | ordinary
  deriving DecidableEq, Repr

def readBit : Nat := 4

/-- The bit for reaching what is below a directory. -/
def searchBit : Nat := 1

/-- Whether a caller may do with an entry what a permission bit stands for. -/
def Entry.allows (e : Entry) (caller : Caller) (bit : Nat) : Bool :=
  match caller with
  | .superuser => true
  | .ordinary => e.mode / bit % 2 = 1

def Entry.isDirectory (e : Entry) : Bool :=
  e.node = .directory

def Entry.isFile (e : Entry) : Bool :=
  match e.node with
  | .file _ _ => true
  | _ => false

/-- The entry at a location. The top directory is always there. -/
def FileSystem.find? (fs : FileSystem) : Location → Option Entry
  | [] => some ⟨.directory, 0o755⟩
  | name :: rest => fs.entries.lookup (name :: rest)

/-- The number of links in the tree. -/
def FileSystem.linkCount (fs : FileSystem) : Nat :=
  fs.entries.countP fun (_, e) => match e.node with
    | .link _ => true
    | _ => false

namespace Path

def ofText (t : Text) : Path :=
  Text.splitOn '/' t

def text (p : Path) : Text :=
  Text.joinWith ['/'] p

def isAbsolute : Path → Bool
  | [] :: _ :: _ => true
  | _ => false

/-- The part that stands for the directory itself. -/
def here : Text := ['.']

/-- The part that stands for the directory above. -/
def above : Text := ['.', '.']

/-- The location one part further, links left aside. -/
def enter (place : Location) (part : Text) : Location :=
  if part = [] ∨ part = here then place
  else if part = above then place.dropLast
  else place ++ [part]

/-- The location that a path leads to from another, links left aside. -/
def applyTo (place : Location) (p : Path) : Location :=
  p.foldl enter (if p.isAbsolute then [] else place)

end Path

def Location.path : Location → Path
  | [] => [[], []]
  | name :: rest => [] :: name :: rest

/-- The text of the absolute path of a location. -/
def Location.text (l : Location) : Text :=
  Path.text (Location.path l)

end StaticSite
