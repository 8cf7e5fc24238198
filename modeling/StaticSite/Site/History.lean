import StaticSite.FileSystem.Edit
import StaticSite.Site.App

/-! What happens to a site in the course of time: its tree is changed, it begins and ends, and
clients turn to it. Each step leaves a tree and a site behind, and something to be seen. -/

namespace StaticSite

/-- A site in the course of time: the tree as it sees it, the site, and whether it has begun and
not yet ended. A site answers requests before it begins and after it has ended as well. -/
structure Stage where
  vantage : Vantage
  app : App
  begun : Bool

namespace App

/-- Something that happens while there is a site. -/
inductive Step where
  | edit (e : Edit)
  | startup
  | shutdown
  | request (r : Request)
  | socket (r : Request)
  deriving Repr

/-- What is seen of a step. To end a site that has not begun is nothing. -/
inductive Outcome where
  | changed
  | started (line : LogLine)
  | stopped (line : LogLine)
  | idle
  | answered (a : Answer)
  | refused (messages : List Text)
  | failed (e : Failure)
  deriving DecidableEq, Repr

/-- The lines that a step leaves in the log. -/
def Outcome.log : Outcome → List LogLine
  | started line => [line]
  | stopped line => [line]
  | answered a => a.log
  | _ => []

/-- What comes of a client that asks for a two-way connection. -/
def socketOutcome (a : App) (r : Request) : Outcome :=
  match a.acceptSocket r with
  | .ok messages => .refused messages
  | .error e => .failed e

/-- What a step leaves, and what is seen of it. Only an edit changes the tree, and only a request
the site. -/
def step (c : Circumstances) (s : Stage) : Step → Stage × Outcome
  | .edit e => ({ s with vantage := s.vantage.apply e }, .changed)
  | .startup => ({ s with begun := true }, .started (startLine s.app.settings))
  | .shutdown => ({ s with begun := false }, if s.begun then .stopped stopLine else .idle)
  | .request r =>
      let (next, answer) := s.app.handle s.vantage c r
      ({ s with app := next }, .answered answer)
  | .socket r => (s, s.app.socketOutcome r)

/-- What is seen of some steps, one after another. -/
def run (c : Circumstances) (s : Stage) : List Step → List Outcome
  | [] => []
  | next :: rest =>
      let (s, outcome) := step c s next
      outcome :: run c s rest

def after (c : Circumstances) (s : Stage) : List Step → Stage
  | [] => s
  | next :: rest => after c (step c s next).1 rest

end App
end StaticSite
