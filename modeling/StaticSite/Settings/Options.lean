import StaticSite.Settings.Value
import StaticSite.Text.LetterCase

/-! How the sources of settings are read: the places they are in, and how variables are named. Some
arguments are not for settings but say this; their names begin with an underscore. -/

namespace StaticSite

/-- The value of an argument, nothing if it is not given. -/
def argumentOr (fallback : Value) (arguments : List (Text × Value)) (name : String) : Value :=
  (arguments.lookup name.toList).getD fallback

/-- The places of sources as arguments tell them: files of assignments and the charset they are in,
directories of secrets, and the words of a command line. -/
structure SourcePlaces where
  files : Value
  charset : Value
  secrets : Value
  words : Value

/-- The places that arguments ask for. Unless they say otherwise there is one file, in the working
directory. -/
def SourcePlaces.read (arguments : List (Text × Value)) : SourcePlaces :=
  { files := argumentOr (.text ".env".toList) arguments "_env_file"
    charset := argumentOr .null arguments "_env_file_encoding"
    secrets := argumentOr .null arguments "_secrets_dir"
    words := argumentOr .null arguments "_cli_parse_args" }

/-- How names and values of variables are understood: what the names begin with, whether in files
those of fields without it are passed over, whether letter case matters, whether an empty value
counts as none, and the text that stands for nothing. -/
structure SourceOptions where
  variableStart : Text
  passesBareNames : Bool
  exactCase : Bool
  ignoreEmpty : Bool
  nullText : Option Text
  deriving DecidableEq, Repr

namespace SourceOptions

/-- What the names of variables begin with unless arguments say otherwise. -/
def standardStart : Text := "STATIC_SERVER_".toList

/-- The name of a variable as it is compared. -/
def fold (o : SourceOptions) (name : Text) : Text :=
  if o.exactCase then name else name.lower

/-- The name of the variable for a field, as it is compared. -/
def variableName (o : SourceOptions) (f : Field) : Text :=
  o.fold (o.variableStart ++ f.name)

/-- Whether a value that a variable has counts. -/
def counts (o : SourceOptions) (value : Text) : Bool :=
  !(o.ignoreEmpty && value.isEmpty)

/-- What the text of a variable stands for. -/
def meaning (o : SourceOptions) (t : Text) : Value :=
  if o.nullText = some t then .null else .text t

/-- The names of the arguments that are not for settings. Most of them make no difference here. -/
def names : List Text :=
  ["_case_sensitive", "_nested_model_default_partial_update", "_env_prefix", "_env_prefix_target",
    "_env_file", "_env_file_depth", "_env_file_encoding", "_env_ignore_empty",
    "_env_nested_delimiter", "_env_nested_max_split", "_env_parse_none_str", "_env_parse_enums",
    "_cli_prog_name", "_cli_parse_args", "_cli_settings_source", "_cli_parse_none_str",
    "_cli_hide_none_type", "_cli_avoid_json", "_cli_enforce_required",
    "_cli_use_class_docs_for_groups", "_cli_exit_on_error", "_cli_prefix",
    "_cli_flag_prefix_char", "_cli_implicit_flags", "_cli_ignore_unknown_args",
    "_cli_kebab_case", "_cli_shortcuts", "_secrets_dir", "_build_sources"].map String.toList

def isOption (name : Text) : Bool :=
  names.contains name

/-- The name by which the settings themselves are known, which no argument can have. -/
def selfName : Text := "__pydantic_self__".toList

/-! ### Arguments that cannot be used as they are -/

/-- Whether a pair of sources that are brought along and what is given to them takes the place of
everything else. No value is a source, so it does so only if there are none. -/
def readBrought : Value → Except Misuse Bool
  | .null => .ok false
  | v =>
      match v.parts? with
      | none => .error (.asPair v.kindName)
      | some [sources, _] =>
          if !sources.isTrue then .ok true
          else match sources.parts? with
            | some (source :: _) => .error (.asFunction source.kindName)
            | _ => .error (.asSequence sources.kindName)
      | some parts =>
          .error (if parts.length < 2 then .tooFewParts parts.length else .tooManyParts)

/-- Checks a value that is counted down from, unless it counts as false. -/
def checkCount (v : Value) : Except Misuse Unit :=
  if v.isTrue ∧ v.parts?.isSome then .error (.asCount v.kindName) else .ok ()

/-- Checks a value whose length is asked for; nothing stands for the standard. -/
def checkSized (v : Value) : Except Misuse Unit :=
  match v, v.parts? with
  | .null, _ => .ok ()
  | _, some _ => .ok ()
  | v, none => .error (.asSized v.kindName)

/-- Checks arguments before any source is read, and tells whether they take the place of all
sources. -/
def check (arguments : List (Text × Value)) : Except Misuse Bool := do
  if (arguments.lookup selfName).isSome then throw (.twice selfName)
  else if ← readBrought (argumentOr .null arguments "_build_sources") then return true
  else
    checkCount (argumentOr .null arguments "_env_nested_max_split")
    checkSized (argumentOr .null arguments "_env_prefix")
    return false

/-! ### The options -/

/-- What the names of variables begin with, as a value says it; nothing if it cannot stand before a
name. -/
def readStart? : Value → Option Text
  | .null => some standardStart
  | .text t => some t
  | _ => none

/-- The targets for which the names of variables have a beginning. -/
def targets : List Text :=
  ["variable", "all"].map String.toList

/-- Whether the names of variables have a beginning, as a value for the target says it. -/
def hasStart : Value → Bool
  | .null => true
  | .text t => targets.contains t
  | _ => false

def text? : Value → Option Text
  | .text t => some t
  | _ => none

/-- Whether letter case matters in names, as arguments say it. -/
def readExactCase (arguments : List (Text × Value)) : Bool :=
  (argumentOr .null arguments "_case_sensitive").isTrue

/-- The options that arguments ask for, if there are names of variables that go with them. -/
def read? (arguments : List (Text × Value)) : Option SourceOptions :=
  let start := argumentOr .null arguments "_env_prefix"
  let variableStart :=
    if hasStart (argumentOr .null arguments "_env_prefix_target") then readStart? start else some []
  variableStart.map fun variableStart =>
    { variableStart
      passesBareNames := start matches .null || start.isTrue
      exactCase := readExactCase arguments
      ignoreEmpty := (argumentOr .null arguments "_env_ignore_empty").isTrue
      nullText := text? (argumentOr .null arguments "_env_parse_none_str") }

end SourceOptions
end StaticSite
