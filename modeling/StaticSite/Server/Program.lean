import StaticSite.Server.Start
import StaticSite.Settings.Load
import StaticSite.Site.History

/-! The program around the server: what it does when a start has ended, and the site that it makes
of its own settings. -/

namespace StaticSite

/-- How a start ended: with an answer, by an interruption from the keyboard, or with a failure. -/
inductive StartEnd (ε : Type) where
  | answered (started : Bool)
  | interrupted
  | failed (e : ε)
  deriving DecidableEq, Repr

inductive ProgramEnd (ε : Type) where
  | returned
  | exit (code : Nat)
  | raised (e : ε)
  deriving DecidableEq, Repr

namespace Program

def interruptedLine : LogLine :=
  ⟨.info, Server.logger, "Server stopped".toList⟩

/-- The end of the program after a start. An interruption is a way to end well. -/
def finish {ε : Type} : StartEnd ε → ProgramEnd ε × List LogLine
  | .answered true => (.returned, [])
  | .answered false => (.exit 1, [])
  | .interrupted => (.returned, [interruptedLine])
  | .failed e => (.raised e, [])

inductive Failed where
  | mount (e : MountError)
  | start (e : StartFailure)
  deriving DecidableEq, Repr

/-- The program with some settings, its server being stopped once it is up. -/
def run (s : Settings) (v : Vantage) (n : Network) : ProgramEnd Failed × List LogLine :=
  match Server.start s v n with
  | .error e => (.raised (.mount e), [])
  | .ok launch =>
      let ended : StartEnd Failed := match launch.progress with
        | .ended started => .answered started
        | .raised e => .failed (.start e)
        | .up => .answered true
      let (result, log) := finish ended
      (result, launch.log ++ log)

/-! ### The site of the program's own settings -/

/-- The site of the program with the threshold of its log. -/
structure Loaded where
  settings : Settings
  threshold : Level
  app : App

inductive LoadError where
  | settings (e : SettingsError)
  | level (name : Text)
  | mount (e : MountError)

/-- Loads the program: its settings, the threshold they name, and the site. -/
def load (s : Surroundings) (standard : Settings) : Except LoadError Loaded :=
  match Settings.load s standard [] with
  | .error e => .error (.settings e)
  | .ok s =>
      match Level.threshold s.logLevel with
      | .error name => .error (.level name)
      | .ok threshold =>
          match App.create s with
          | .error e => .error (.mount e)
          | .ok app => .ok ⟨s, threshold, app⟩

/-- What is seen of each step of a program in the tree from which it was loaded, and the lines that
it writes at the step: those that reach its threshold. -/
def Loaded.run (l : Loaded) (c : Circumstances) (v : Vantage) (steps : List App.Step) :
    List (App.Outcome × List LogLine) :=
  (App.run c ⟨v, l.app, false⟩ steps).map fun outcome =>
    (outcome, LogLine.reaching l.threshold outcome.log)

end Program
end StaticSite
