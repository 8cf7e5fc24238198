import StaticSite.FileSystem.Walk

/-! Changes of the tree by its owner, whom permissions do not restrain: writing, making, removing,
linking, renaming. A change applies to the entry that the last part of a path names, and not to
what a link there leads to; only writing and a change of mode go through a link. Directories are
made with those above them; all other changes need a directory that is there. A change that the
system refuses leaves the tree as it is. -/

namespace StaticSite

/-- A change of the tree. -/
inductive Edit where
  | write (path : Path) (content : List UInt8) (modified : Int)
  | makeDirectory (path : Path)
  | remove (path : Path)
  | link (path : Path) (target : Text)
  | rename (path : Path) (target : Path)
  | changeMode (path : Path) (mode : Nat)
  | pipe (path : Path)
  deriving Repr

/-- Why a change is refused. A refusal of the system names the paths that it was asked about. -/
inductive EditError where
  | embeddedNull
  | timeOutOfRange
  | system (e : SystemError) (paths : List Text)
  deriving DecidableEq, Repr

def EditError.message : EditError → Text
  | embeddedNull => "embedded null byte".toList
  | timeOutOfRange => "timestamp out of range for platform time_t".toList
  | system e [] => e.message
  | system e (path :: rest) =>
      e.messageAbout path ++ rest.flatMap fun other => " -> ".toList ++ other.quoted

/-- The refusal of a change that was asked for with some paths. -/
def PathError.refusal (e : PathError) (paths : List Text) : EditError :=
  match e with
  | .embeddedNull => .embeddedNull
  | .system e => .system e paths

/-- A path without the slashes at its end. -/
def Path.bare (p : Path) : Path :=
  (p.reverse.dropWhile (·.isEmpty)).reverse

namespace Vantage

/-- The directory in which a path names something by its last part. -/
def directoryOf (v : Vantage) (p : Path) : Except PathError Location :=
  if p.text = [] then .error (.system .notFound)
  else v.locate true (p.bare.dropLast ++ [Path.here])

/-- The location where a path names nothing yet, in a directory that is there. -/
def vacantPlace (v : Vantage) (p : Path) : Except PathError Location :=
  match v.locate false p.bare with
  | .ok _ => .error (.system .alreadyThere)
  | .error (.system .notFound) =>
      if p.bare = p then (v.directoryOf p).map (· ++ p.getLast?.toList)
      else .error (.system .notFound)
  | .error e => .error e

end Vantage

namespace FileSystem

/-- The tree as its owner sees it from a directory. -/
def asOwner (fs : FileSystem) (workingDirectory : Location) : Vantage :=
  ⟨fs, .superuser, workingDirectory⟩

/-! ### Times -/

/-- The first and the last time that the system can be told, in seconds. -/
def tellableSeconds : Int × Int := (-0x8000000000000000, 0x7fffffffffffffff)

/-- The first and the last time that the tree can keep, in seconds. -/
def keptSeconds : Int × Int := (-0x80000000, 0x37fffffff)

/-- The time that is kept for a file: a time beyond the first or the last one becomes that one,
and neither has a fraction. -/
def keepTime (modified : Int) : Int :=
  let second := modified / 1000000000
  if keptSeconds.1 < second ∧ second < keptSeconds.2 then modified
  else max keptSeconds.1 (min second keptSeconds.2) * 1000000000

/-! ### Entries -/

/-- The tree without what stands at a location or below it. -/
def erase (fs : FileSystem) (place : Location) : FileSystem :=
  ⟨fs.entries.filter fun (l, _) => !place.isPrefixOf l⟩

/-- The tree with an entry put in place of what stood at a location. -/
def put (fs : FileSystem) (place : Location) (e : Entry) : FileSystem :=
  ⟨(place, e) :: (fs.erase place).entries⟩

/-- The tree with a part of it moved to another location. -/
def move (fs : FileSystem) (source target : Location) : FileSystem :=
  let moved := fs.entries.filterMap fun (l, e) =>
    (source.isPrefixOf? l).map fun below => (target ++ below, e)
  ⟨moved ++ ((fs.erase source).erase target).entries⟩

/-- The tree with other permission bits at a location. -/
def setMode (fs : FileSystem) (place : Location) (mode : Nat) : FileSystem :=
  match fs.find? place with
  | some e => ⟨(place, { e with mode }) :: fs.entries⟩
  | none => fs

/-- The permission bits of what is written at a location: those of the file that stands there, or
else the usual ones. -/
def modeOfFile (fs : FileSystem) (there : Location) : Nat :=
  match fs.find? there with
  | some ⟨.file _ _, mode⟩ => mode
  | _ => 0o644

/-- Whether something stands below a location. -/
def hasEntryBelow (fs : FileSystem) (place : Location) : Bool :=
  fs.entries.any fun (l, _) => place.isPrefixOf l && place != l

/-! ### Changes -/

/-- The location that is written to by a path: that of what it leads to or, if this is not there
yet, the one where it is made. A link without what it leads to is followed so far. With a slash at
its end a path cannot be of a file. -/
def writtenPlace (fs : FileSystem) : Nat → Location → Path → Except PathError Location
  | 0, _, _ => .error (.system .tooManyLinks)
  | links + 1, start, p =>
      let owner := fs.asOwner start
      if p.bare ≠ p ∧ p.bare ≠ [] then
        (owner.directoryOf p).bind fun _ => .error (.system .isDirectory)
      else match owner.locate true p, owner.locate false p with
        | .error (.system .notFound), .ok there =>
            match fs.find? there with
            | some ⟨.link target, _⟩ => writtenPlace fs links there.dropLast (Path.ofText target)
            | _ => .error (.system .notFound)
        | .error (.system .notFound), .error _ => owner.vacantPlace p
        | result, _ => result

/-- The tree with the directories made that a path names one after another; `done` are the parts
that have been seen to. In the end it has to lead to a directory. -/
def makeDirectories (fs : FileSystem) (workingDirectory : Location) (done : Path) :
    Path → Except EditError FileSystem
  | [] =>
      match (fs.asOwner workingDirectory).stat done with
      | .ok ⟨.directory, _⟩ => .ok fs
      | _ => .error (.system .alreadyThere [done.text])
  | part :: rest =>
      let p := done ++ [part]
      if part = [] then fs.makeDirectories workingDirectory p rest
      else match (fs.asOwner workingDirectory).vacantPlace p with
        | .ok there =>
            (fs.put there ⟨.directory, 0o755⟩).makeDirectories workingDirectory p rest
        | .error (.system .alreadyThere) => fs.makeDirectories workingDirectory p rest
        | .error e => .error (e.refusal [if rest.all (·.isEmpty) then (p ++ rest).text else p.text])

/-- Whether what stands at a location may take the place of what stands at another. -/
def checkReplace (fs : FileSystem) (source target : Location) : Except SystemError Unit :=
  if source.isPrefixOf target then .error .invalidArgument
  else if target.isPrefixOf source then .error .notEmpty
  else match (fs.find? source).any (·.isDirectory), (fs.find? target).any (·.isDirectory) with
    | true, true => if fs.hasEntryBelow target then .error .notEmpty else .ok ()
    | true, false => .error .notDirectory
    | false, true => .error .isDirectory
    | false, false => .ok ()

/-- The locations from which and to which something is renamed. Nothing can come to stand inside
itself. -/
def renamedPlaces (fs : FileSystem) (workingDirectory : Location) (path target : Path) :
    Except PathError (Location × Location) := do
  let owner := fs.asOwner workingDirectory
  let _ ← owner.directoryOf path
  let _ ← owner.directoryOf target
  let source ← owner.locate false path
  match owner.locate false target with
  | .ok there =>
      if source ≠ there then (fs.checkReplace source there).mapError .system
      return (source, there)
  | .error _ =>
      let there ← owner.vacantPlace target
      if source.isPrefixOf there then throw (.system .invalidArgument)
      return (source, there)

/-- The tree after a change, or why it is refused, paths being taken from a working directory. -/
def attempt (fs : FileSystem) (workingDirectory : Location) :
    Edit → Except EditError FileSystem
  | .write path content modified => do
      let there ← (fs.writtenPlace (maxLinks + 1) workingDirectory path).mapError
        (·.refusal [path.text])
      match fs.find? there with
      | some ⟨.directory, _⟩ => throw (.system .isDirectory [path.text])
      | some ⟨.pipe, _⟩ => return fs
      | _ =>
          let second := modified / 1000000000
          if tellableSeconds.1 ≤ second ∧ second ≤ tellableSeconds.2 then
            return fs.put there ⟨.file content (keepTime modified), fs.modeOfFile there⟩
          else throw .timeOutOfRange
  | .makeDirectory path =>
      if path.text = [] then .error (.system .notFound [[]])
      else fs.makeDirectories workingDirectory [] path
  | .remove path => do
      let there ← ((fs.asOwner workingDirectory).locate false path).mapError
        (·.refusal [path.text])
      return fs.erase there
  | .link path target => do
      let paths := [target, path.text]
      if target.contains '\x00' then throw .embeddedNull
      if target = [] then throw (.system .notFound paths)
      if maxPathSize < Utf8.size target then throw (.system .nameTooLong paths)
      let there ← ((fs.asOwner workingDirectory).vacantPlace path).mapError (·.refusal paths)
      return fs.put there ⟨.link target, 0o777⟩
  | .rename path target => do
      let paths := [path.text, target.text]
      let (source, there) ← (fs.renamedPlaces workingDirectory path target).mapError
        (·.refusal paths)
      return if source = there then fs else fs.move source there
  | .changeMode path mode => do
      let there ← ((fs.asOwner workingDirectory).locate true path).mapError
        (·.refusal [path.text])
      return fs.setMode there mode
  | .pipe path => do
      -- A refusal of this kind names no path.
      let there ← ((fs.asOwner workingDirectory).vacantPlace path).mapError (·.refusal [])
      return fs.put there ⟨.pipe, 0o644⟩

/-- The tree after a change; one that is refused leaves it as it is. -/
def apply (fs : FileSystem) (workingDirectory : Location) (e : Edit) : FileSystem :=
  match fs.attempt workingDirectory e with
  | .ok changed => changed
  | .error _ => fs

end FileSystem

/-- The tree as a process sees it after a change by the owner, or why the change is refused. -/
def Vantage.attempt (v : Vantage) (e : Edit) : Except EditError Vantage :=
  (v.files.attempt v.workingDirectory e).map fun files => { v with files }

/-- The tree as a process sees it after a change by the owner. -/
def Vantage.apply (v : Vantage) (e : Edit) : Vantage :=
  { v with files := v.files.apply v.workingDirectory e }

end StaticSite
