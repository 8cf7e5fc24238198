import StaticSite.FileSystem.Basic
import StaticSite.SystemError

/-! Following a path from directory to directory. Each part asks for a directory that may be
searched; a link on the way is replaced by its target, at most forty times. -/

namespace StaticSite

/-- The longest name of an entry, in bytes. -/
def maxNameSize : Nat := 255

/-- The longest path that is followed, in bytes. -/
def maxPathSize : Nat := 4095

/-- The most links that are followed on one path. -/
def maxLinks : Nat := 40

namespace FileSystem

/-- Whether a caller may go on from a location, and with which error not. An empty part, as before
or after a slash, asks for a directory but not for the right to search it. -/
def checkDirectory (fs : FileSystem) (caller : Caller) (place : Location) (part : Text) :
    Except SystemError Unit :=
  match fs.find? place with
  | none => .error .notFound
  | some e =>
      if !e.isDirectory then .error .notDirectory
      else if part = [] ∨ e.allows caller searchBit then .ok ()
      else .error .accessDenied

/-- The location that a path leads to from a directory. `jump` follows a link, given where its
target and the rest of the path are to be followed from; a link as the last part is followed only
if `followLast` says so. -/
def walkWith (fs : FileSystem) (caller : Caller) (followLast : Bool)
    (jump : Location → Path → Except SystemError Location) :
    Location → Path → Except SystemError Location
  | place, [] => .ok place
  | place, part :: rest =>
      match fs.checkDirectory caller place part with
      | .error e => .error e
      | .ok () =>
          if part = [] ∨ part = Path.here then walkWith fs caller followLast jump place rest
          else if part = Path.above then walkWith fs caller followLast jump place.dropLast rest
          else if maxNameSize < Utf8.size part then .error .nameTooLong
          else match fs.find? (place ++ [part]) with
            | none => .error .notFound
            | some ⟨.link target, _⟩ =>
                if rest.isEmpty ∧ !followLast then .ok (place ++ [part])
                else
                  let path := Path.ofText target
                  jump (if path.isAbsolute then [] else place) (path ++ rest)
            | some _ => walkWith fs caller followLast jump (place ++ [part]) rest

/-- The location that a path leads to from a directory, with so many links at most. -/
def walk (fs : FileSystem) (caller : Caller) (followLast : Bool) :
    Nat → Location → Path → Except SystemError Location
  | 0 => walkWith fs caller followLast fun _ _ => .error .tooManyLinks
  | links + 1 => walkWith fs caller followLast (walk fs caller followLast links)

end FileSystem

/-- The caller that a process becomes when it gives up its privileges, where the system permits that
at all. -/
def Caller.withoutPrivileges (permitted : Bool) : Except SystemError Caller :=
  if permitted then .ok .ordinary else .error .notPermitted

/-- How a process sees the tree: who it is, and the directory from which its paths go. -/
structure Vantage where
  files : FileSystem
  caller : Caller
  workingDirectory : Location

inductive PathError where
  | embeddedNull
  | system (e : SystemError)
  deriving DecidableEq, Repr

namespace Vantage

/-- Where the following of a path starts. -/
def start (v : Vantage) (p : Path) : Location :=
  if p.isAbsolute then [] else v.workingDirectory

/-- The location of a path, checked in this order: a null character, no path at all, a path that
is too long, and what is met on the way. -/
def locate (v : Vantage) (followLast : Bool) (p : Path) : Except PathError Location :=
  if p.any (·.contains '\x00') then .error .embeddedNull
  else if p.text = [] then .error (.system .notFound)
  else if maxPathSize < Utf8.size p.text then .error (.system .nameTooLong)
  else match v.files.walk v.caller followLast maxLinks (v.start p) p with
    | .ok place => .ok place
    | .error e => .error (.system e)

/-- The entry that a path leads to, links followed. -/
def stat (v : Vantage) (p : Path) : Except PathError Entry := do
  let place ← v.locate true p
  match v.files.find? place with
  | some e => .ok e
  | none => .error (.system .notFound)

/-- The target of the link at a location, if there is one that the process can see. -/
def linkAt? (v : Vantage) (place : Location) : Option Text :=
  match v.locate false (Location.path place) with
  | .error _ => none
  | .ok found =>
      match v.files.find? found with
      | some ⟨.link target, _⟩ => some target
      | _ => none

/-- The content of the regular file that a path leads to. -/
def read (v : Vantage) (p : Path) : Except PathError (List UInt8) := do
  let e ← v.stat p
  match e.node with
  | .file content _ =>
      if e.allows v.caller readBit then .ok content else .error (.system .accessDenied)
  | _ => .error (.system .accessDenied)

end Vantage
end StaticSite
