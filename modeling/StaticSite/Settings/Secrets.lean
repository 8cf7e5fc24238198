import StaticSite.FileSystem.Walk
import StaticSite.Settings.DotEnv
import StaticSite.Settings.Options

/-! Secrets: directories with a file for each setting, which holds its value. -/

namespace StaticSite

/-- Why a source cannot be read: what stands where a directory of secrets has to be; the variable
of a field has no name; or the secret of a field has no text. -/
inductive SourceError where
  | notDirectory (label : Text)
  | unnamedVariable (f : Field)
  | unreadableSecret (f : Field)
  deriving DecidableEq, Repr

namespace SourceError

/-- The wording of a failure to get the value of a field from a source. -/
def valueMessage (f : Field) (source : Text) : Text :=
  "error getting value for field \"".toList ++ f.name ++
    "\" from source \"".toList ++ source ++ ['"']

def message : SourceError → Text
  | notDirectory label => "secrets_dir must reference a directory, not a ".toList ++ label
  | unnamedVariable f => valueMessage f "EnvSettingsSource".toList
  | unreadableSecret f => valueMessage f "SecretsSettingsSource".toList

end SourceError

namespace Secrets

/-- What is said to stand at a path instead of a directory. -/
def label (v : Vantage) (path : Path) (e : Entry) : Text :=
  if e.isFile then "file".toList
  else match v.locate false path with
    | .ok place =>
        match v.files.find? place with
        | some ⟨.link _, _⟩ => "symlink".toList
        | _ => "FIFO".toList
    | .error _ => "FIFO".toList

/-- The names in a directory, in the order in which they came to be. -/
def namesIn (fs : FileSystem) (place : Location) : List Name :=
  (fs.entries.filterMap fun (l, _) =>
    match l.getLast? with
    | some name => if l.dropLast = place then some name else none
    | none => none).eraseDups.reverse

/-- The first name in a directory that is that of a variable as it is compared. -/
def nameOf? (o : SourceOptions) (names : List Name) (f : Field) : Option Name :=
  let wanted := o.variableName f
  names.find? fun name => name == wanted || (!o.exactCase && name.lower == wanted.lower)

/-- The text of a file, without blanks at either end. -/
def text? (v : Vantage) (path : Path) : Option Text :=
  match v.read path with
  | .error _ => none
  | .ok bytes =>
      match Utf8.decode bytes with
      | .ok t => some (Text.strip (DotEnv.unifyNewlines t))
      | .error _ => none

/-- The value of a field that one directory holds, if it holds one. Only a file does. -/
def valueIn (v : Vantage) (o : SourceOptions) (f : Field) (directory : Path) :
    Except SourceError (Option Text) :=
  match v.locate true directory with
  | .error _ => .error (.unreadableSecret f)
  | .ok place =>
      match nameOf? o (namesIn v.files place) f with
      | none => .ok none
      | some name =>
          match v.stat (directory ++ [name]) with
          | .error (.system e) =>
              if e.meansMissing then .ok none else .error (.unreadableSecret f)
          | .error .embeddedNull => .ok none
          | .ok e =>
              if !e.isFile then .ok none
              else match text? v (directory ++ [name]) with
                | some t => .ok (some t)
                | none => .error (.unreadableSecret f)

/-- The value of a field in the first of some directories that holds one. -/
def value (v : Vantage) (o : SourceOptions) (f : Field) :
    List Path → Except SourceError (Option Text)
  | [] => .ok none
  | directory :: rest =>
      match valueIn v o f directory with
      | .ok none => value v o f rest
      | found => found

/-- The values of all fields that have one. Of several directories the last counts. -/
def read (v : Vantage) (o : SourceOptions) (directories : List Path) :
    Except SourceError (List (Field × Text)) := do
  let found ← Field.all.mapM fun f => do
    let t ← value v o f directories.reverse
    return t.toList.map (f, ·)
  return found.flatten

end Secrets
end StaticSite
