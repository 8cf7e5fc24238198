import StaticSite.Settings.CommandLine
import StaticSite.Settings.DotEnv

/-! Where settings come from: a command line, if there is one, before arguments, these before
variables of the environment, these before assignments of files, these before secrets, and what
none of them supplies is as standard. Names ignore case. Each field is read on its own, and all
faults are reported together. -/

namespace StaticSite

/-- Why one value was refused, or a name that stands for no setting. -/
structure Rejection where
  name : Text
  fault : Fault
  input : Value

/-- What is offered for the settings: what a command line gives, arguments by their plain names, the
variables of the environment, the assignments of each file, and secrets. -/
structure Sources where
  options : SourceOptions
  commandLine : List (Field × Text)
  arguments : List (Text × Value)
  environment : List (Text × Text)
  files : List (List DotEnv.Assignment)
  secrets : List (Field × Text)

namespace Sources

def argument? (s : Sources) (f : Field) : Option Value :=
  (s.arguments.find? fun (name, _) => name.lower == f.name).map (·.2)

/-- The last variable of the environment for a field. -/
def supplied? (s : Sources) (f : Field) : Option Text :=
  (s.environment.reverse.find? fun (name, value) =>
    s.options.fold name == s.options.variableName f && s.options.counts value).map (·.2)

/-- The assignments of one file that count, with their names as they are compared, one for each
name. -/
def ofFile (s : Sources) (file : List DotEnv.Assignment) : List DotEnv.Assignment :=
  let counting := (DotEnv.collapse file).filter fun a => a.value.all s.options.counts
  DotEnv.collapse (counting.map fun a => { a with name := s.options.fold a.name })

/-- The assignments of all files, one for each name, the last. -/
def assignments (s : Sources) : List DotEnv.Assignment :=
  DotEnv.collapse (s.files.flatMap s.ofFile)

/-- The value that the files assign to a field. A name without a value assigns nothing. -/
def assigned? (s : Sources) (f : Field) : Option Text :=
  (s.assignments.find? (·.name == s.options.variableName f)).bind (·.value)

/-- The value that counts for a field. -/
def chosen? (s : Sources) (f : Field) : Option Value :=
  (CommandLine.value? s.commandLine f).or <| (s.argument? f).or <|
    (((s.supplied? f).or (s.assigned? f)).map s.options.meaning).or <|
      (s.secrets.lookup f).map .text

/-- What a field is: the value that counts for it, as `read` understands it, or as standard. -/
def field {α : Type} (s : Sources) (f : Field) (standard : α) (read : Value → Except Fault α) :
    Except Rejection α :=
  match s.chosen? f with
  | none => .ok standard
  | some v =>
      match read v with
      | .ok a => .ok a
      | .error fault => .error ⟨f.name, fault, v⟩

/-- Whether a name in a file belongs to a field: it is that of the variable, or the bare one where
such are passed over. -/
def isFieldName (s : Sources) (name : Text) : Bool :=
  Field.all.any fun f =>
    (s.options.passesBareNames && f.name == name) || s.options.variableName f == name

/-- The values that the files assign to names of no field. An empty value does not count. -/
def fileExtras (s : Sources) : List (Text × Value) :=
  s.assignments.filterMap fun a =>
    match a.value with
    | some (c :: rest) => if s.isFieldName a.name then none else some (a.name, .text (c :: rest))
    | _ => none

def argumentExtras (s : Sources) : List (Text × Value) :=
  s.arguments.filter fun (name, _) => !Field.all.any fun f => f.name == name.lower

/-- The names that stand for nothing: those of the files before those of the arguments. A name in
both is reported once, with the value of the argument. -/
def extras (s : Sources) : List Rejection :=
  let ofArguments := s.argumentExtras
  let ofFile := s.fileExtras
  let first := ofFile.map fun (name, v) =>
    ⟨name, .extraForbidden, (ofArguments.lookup name).getD v⟩
  let second := (ofArguments.filter fun (name, _) => !ofFile.any (·.1 == name)).map fun (name, v) =>
    ⟨name, .extraForbidden, v⟩
  first ++ second

/-- The fault of a field, if it has one. -/
def rejection {α : Type} : Except Rejection α → List Rejection
  | .ok _ => []
  | .error r => [r]

/-- The settings that the sources give, or every fault in them. -/
def settings (s : Sources) (standard : Settings) : Except (List Rejection) Settings :=
  let host := s.field .host standard.host Value.readText
  let port := s.field .port standard.port Value.readInt
  let rootDir := s.field .rootDir standard.rootDir Value.readPath
  let urlPrefix := s.field .urlPrefix standard.urlPrefix Value.readText
  let htmlIndex := s.field .htmlIndex standard.htmlIndex Value.readBool
  let logLevel := s.field .logLevel standard.logLevel Value.readText
  match host, port, rootDir, urlPrefix, htmlIndex, logLevel, s.extras with
  | .ok host, .ok port, .ok rootDir, .ok urlPrefix, .ok htmlIndex, .ok logLevel, [] =>
      .ok { host, port, rootDir, urlPrefix, htmlIndex, logLevel }
  | _, _, _, _, _, _, _ =>
      .error (rejection host ++ rejection port ++ rejection rootDir ++ rejection urlPrefix ++
        rejection htmlIndex ++ rejection logLevel ++ s.extras)

end Sources

end StaticSite
