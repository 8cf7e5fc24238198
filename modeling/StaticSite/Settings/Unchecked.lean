import StaticSite.Settings.Check

/-! Copies of settings in which values have been replaced without a look at them, so that a setting
may be a value of any kind. -/

namespace StaticSite

/-- Settings of which each may be any value. -/
structure Unchecked where
  host : Value
  port : Value
  rootDir : Value
  urlPrefix : Value
  htmlIndex : Value
  logLevel : Value

/-- A copy of settings with changes by the exact names of fields. Other names change nothing. -/
def Settings.update (s : Settings) (changes : List (Text × Value)) : Unchecked :=
  let changed (f : Field) (v : Value) : Value := (changes.lookup f.name).getD v
  { host := changed .host (.text s.host)
    port := changed .port (.int s.port)
    rootDir := changed .rootDir (.text s.rootDir)
    urlPrefix := changed .urlPrefix (.text s.urlPrefix)
    htmlIndex := changed .htmlIndex (.bool s.htmlIndex)
    logLevel := changed .logLevel (.text s.logLevel) }

/-- The name under which settings keep what shows them. -/
def Settings.showName : Text := "model_dump".toList

/-- The name under which settings keep what writes them down. -/
def Settings.writerName : Text := "__pydantic_serializer__".toList

/-- Why a copy cannot be shown, if the changes put a value in place of what shows it. -/
def Settings.unshowable? (changes : List (Text × Value)) : Option Misuse :=
  match changes.lookup showName, changes.lookup writerName with
  | some v, _ => some (.asFunction v.kindName)
  | none, some v => some (.asWriter v.kindName)
  | none, none => none

/-- Why unchecked settings were not found to be good: as with others, or a value was of a kind that
cannot be looked at. -/
inductive UncheckedError where
  | check (e : CheckError)
  | misused (m : Misuse)
  deriving DecidableEq, Repr

namespace Unchecked

/-- The problem with the directory of the site, if there is one. -/
def rootProblem (v : Vantage) : Value → Except UncheckedError (List Problem)
  | .text root => (Settings.rootProblem v (Path.plain root)).mapError .check
  | other => .error (.misused (.asPath other.kindName))

/-- The problem with the port, if there is one. A truth value is zero or one. A problem that cannot
be told ends the check. -/
def portProblem : Value → Except UncheckedError (List Problem)
  | .bool _ => .ok []
  | .int port =>
      let found := Settings.portProblem port
      if found.all (·.message?.isSome) then .ok found else .error (.check (.problems found))
  | .real port => .ok (if port.isUpTo Settings.maxPort.toNat then [] else [.fractionalPort port])
  | other => .error (.misused (.asNumber other.kindName))

/-- The problem with the place of the site, if there is one. -/
def prefixProblem : Value → Except UncheckedError (List Problem)
  | .text urlPrefix => .ok (Settings.prefixProblem urlPrefix)
  | other => .error (.misused (.asText other.kindName))

/-- Checks unchecked settings as a process sees the tree. -/
def check (v : Vantage) (u : Unchecked) : Except UncheckedError Unit := do
  let ofRoot ← rootProblem v u.rootDir
  let ofPort ← portProblem u.port
  let ofPrefix ← prefixProblem u.urlPrefix
  match ofRoot ++ ofPort ++ ofPrefix with
  | [] => return ()
  | problems => throw (.check (.problems problems))

end Unchecked
end StaticSite
