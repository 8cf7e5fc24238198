import StaticSite.FileSystem.Home
import StaticSite.Settings.Secrets
import StaticSite.Settings.Sources
import StaticSite.Text.Charset

/-! Reading the settings of a process from its arguments and from what surrounds it. -/

namespace StaticSite

/-- What surrounds a process: how it sees the tree, its environment, and where users are at
home. -/
structure Surroundings where
  vantage : Vantage
  environment : List (Text × Text)
  homes : Homes

inductive SettingsError where
  | invalid (rejections : List Rejection)
  | misused (m : Misuse)
  | unreadable (e : SystemError) (path : Text)
  | undecodable (e : Charset.DecodeError)
  | charset (e : Charset.NameError)
  | home (e : HomeError)
  | source (e : SourceError)
  | commandLine (e : CommandLineEnd)

namespace Surroundings

/-- The path that a value names, with the home in place where it begins at one. -/
def path (s : Surroundings) : Value → Except SettingsError Text
  | .text t => (s.homes.expand s.environment t).mapError .home
  | v => .error (.misused (.asPath v.kindName))

/-- The charset that a value names. One that counts as false names the usual one. -/
def charset (v : Value) : Except SettingsError Charset :=
  if !v.isTrue then .ok .utf8
  else match v with
    | .text name =>
        if name.contains '\x00' then .error (.misused .nullInCharset)
        else (Charset.ofName name).mapError .charset
    | v => .error (.misused (.asCharset v.kindName))

def entry? (s : Surroundings) (path : Text) : Except SettingsError (Option Entry) :=
  match s.vantage.stat (Path.ofText path) with
  | .error .embeddedNull => .ok none
  | .error (.system e) => if e.meansMissing then .ok none else .error (.unreadable e path)
  | .ok e => .ok (some e)

/-- The assignments of a file, none if there is no regular file at the path. -/
def assignments (s : Surroundings) (coding file : Value) :
    Except SettingsError (List DotEnv.Assignment) := do
  let path ← s.path file
  match (← s.entry? path).filter Entry.isFile with
  | none => return []
  | some _ =>
      let c ← charset coding
      match s.vantage.read (Path.ofText path) with
      | .error .embeddedNull => return []
      | .error (.system e) => throw (.unreadable e path)
      | .ok bytes =>
          match c.decode bytes with
          | .error e => throw (.undecodable e)
          | .ok t => return DotEnv.read s.environment t

/-- The single places that a value names: none, one or several. -/
def places : Value → Except SettingsError (List Value)
  | .null => .ok []
  | .text t => .ok [.text t]
  | v =>
      match v.parts? with
      | some parts => .ok parts
      | none => .error (.misused (.asSequence v.kindName))

/-- The directory at a path, if something is there; it has to be one then. -/
def directory (s : Surroundings) (path : Text) : Except SettingsError (Option Path) := do
  match ← s.entry? path with
  | none => return none
  | some e =>
      if e.isDirectory then return some (Path.ofText path)
      else throw (.source (.notDirectory (Secrets.label s.vantage (Path.ofText path) e)))

/-- The secrets in the directories that a value names. -/
def secrets (s : Surroundings) (o : SourceOptions) (v : Value) :
    Except SettingsError (List (Field × Text)) := do
  let paths ← (← places v).mapM s.path
  let present ← paths.filterM fun path => return (← s.entry? path).isSome
  let directories ← present.mapM s.directory
  (Secrets.read s.vantage o directories.reduceOption).mapError .source

def word : Value → Except SettingsError Text
  | .text t => .ok t
  | v => if v.isTrue then .error (.misused (.asWord v.kindName)) else .ok []

/-- What the words of a command line give, if there is one. -/
def commandLine (exactCase : Bool) : Value → Except SettingsError (List (Field × Text))
  | .null => .ok []
  | .bool _ => .ok []
  | .list items => do
      let words ← items.mapM word
      (CommandLine.read (if exactCase then words else words.map CommandLine.foldWord)).mapError
        .commandLine
  | v => if v matches .int 0 then .ok [] else .error (.misused (.asWords v.kindName))

/-- The options that arguments ask for. Without names for variables there is none for the first
field. -/
def options (arguments : List (Text × Value)) : Except SettingsError SourceOptions :=
  match SourceOptions.read? arguments with
  | some o => .ok o
  | none => .error (.source (.unnamedVariable .host))

end Surroundings

/-- The settings that arguments give to a process, and its surroundings. -/
def Settings.load (s : Surroundings) (standard : Settings) (arguments : List (Text × Value)) :
    Except SettingsError Settings := do
  if ← (SourceOptions.check arguments).mapError .misused then return standard
  else
    let places := SourcePlaces.read arguments
    let files ← (← Surroundings.places places.files).mapM (s.assignments places.charset)
    let commandLine ←
      Surroundings.commandLine (SourceOptions.readExactCase arguments) places.words
    let options ← Surroundings.options arguments
    let secrets ← s.secrets options places.secrets
    let forSettings := arguments.filter fun (name, _) => !SourceOptions.isOption name
    let sources : Sources :=
      { options, commandLine, arguments := forSettings, environment := s.environment
        files, secrets }
    (sources.settings standard).mapError .invalid

end StaticSite
