import StaticSite.FileSystem.Walk
import StaticSite.Settings.Value

/-! Whether settings can be served: the directory of the site must be there and open to the
server, the port must be one, and the site must stand below a slash. All problems are reported
together. -/

namespace StaticSite

/-- What is wrong with settings. -/
inductive Problem where
  | rootMissing (root : Text)
  | rootNotDirectory (root : Text)
  | rootNotReadable (root : Text)
  | portOutOfRange (port : Int)
  | fractionalPort (port : Number.Binary64)
  | prefixWithoutSlash (urlPrefix : Text)
  deriving DecidableEq, Repr

/-- What is said of a problem, if it can be: a port may have more digits than are written. -/
def Problem.message? : Problem → Option Text
  | rootMissing root => some ("root directory ".toList ++ root ++ " does not exist".toList)
  | rootNotDirectory root => some ("root directory ".toList ++ root ++ " is not a directory".toList)
  | rootNotReadable root => some ("root directory ".toList ++ root ++ " is not readable".toList)
  | portOutOfRange port =>
      (Number.write? port).map fun digits => "port ".toList ++ digits ++ " is out of range".toList
  | fractionalPort port => some ("port ".toList ++ port.text ++ " is out of range".toList)
  | prefixWithoutSlash urlPrefix =>
      some ("url prefix ".toList ++ urlPrefix.quoted ++ " must start with '/'".toList)

/-- What is said of all problems together. If one of them cannot be told, none is. -/
def Problem.summary (problems : List Problem) : Text :=
  match problems.mapM Problem.message? with
  | some messages => "Configuration errors: ".toList ++ Text.joinWith ", ".toList messages
  | none => Number.tooLongToWrite

/-- Why settings were not found to be good: they have problems, or the directory could not be
looked at. -/
inductive CheckError where
  | problems (list : List Problem)
  | system (e : SystemError) (path : Text)
  deriving DecidableEq, Repr

namespace Settings

/-- The problem with the directory of a site, if there is one. -/
def rootProblem (v : Vantage) (root : Text) : Except CheckError (List Problem) :=
  match v.stat (Path.ofText root) with
  | .error .embeddedNull => .ok [.rootMissing root]
  | .error (.system e) =>
      if e.meansMissing then .ok [.rootMissing root] else .error (.system e root)
  | .ok e =>
      if !e.isDirectory then .ok [.rootNotDirectory root]
      else if e.allows v.caller readBit && e.allows v.caller searchBit then .ok []
      else .ok [.rootNotReadable root]

def maxPort : Int := 65535

/-- The problem with the port, if there is one. -/
def portProblem (port : Int) : List Problem :=
  if 0 ≤ port ∧ port ≤ maxPort then [] else [.portOutOfRange port]

/-- The problem with the place of the site, if there is one. -/
def prefixProblem (urlPrefix : Text) : List Problem :=
  match urlPrefix with
  | '/' :: _ => []
  | _ => [.prefixWithoutSlash urlPrefix]

/-- Checks settings as a process sees the tree. -/
def check (v : Vantage) (s : Settings) : Except CheckError Unit :=
  match rootProblem v (Path.plain s.rootDir) with
  | .error e => .error e
  | .ok found =>
      match found ++ portProblem s.port ++ prefixProblem s.urlPrefix with
      | [] => .ok ()
      | problems => .error (.problems problems)

end Settings
end StaticSite
