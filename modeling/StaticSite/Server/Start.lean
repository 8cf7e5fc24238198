import StaticSite.Listener.Network
import StaticSite.Settings.Check
import StaticSite.Site.App

/-! Starting a server: its settings are checked, a listener is opened, and the site is served until
the server is stopped. What the settings or the system are to blame for is logged and makes the
start fail; other failures are raised. -/

namespace StaticSite

/-- A failure that a start does not report but raises. -/
inductive StartFailure where
  | check (e : SystemError) (path : Text)
  | call (e : CallError)
  | unknownLevel (name : Text)
  deriving DecidableEq, Repr

/-- The wording of a failure. An unknown level is just named. -/
def StartFailure.message : StartFailure → Text
  | check e path => e.messageAbout path
  | call e => e.message
  | unknownLevel name => name.quoted

/-- A server: its site, the port it listens on once it does, and whether it has begun to serve. -/
structure Server where
  settings : Settings
  app : App
  port : Option Nat
  serving : Bool
  deriving DecidableEq, Repr

namespace Server

/-- The name of the writer of the server's log lines. -/
def logger : Text := "run_server".toList

/-- A server that has not been started. -/
def create (s : Settings) : Except MountError Server :=
  (App.create s).map fun app => ⟨s, app, none, false⟩

/-- Asks a server to stop. Before it serves there is nothing to ask. -/
def stop (s : Server) : Server := s

def failedLine (message : Text) : LogLine :=
  ⟨.error, logger, "Server failed to start: ".toList ++ message⟩

/-- The line for a listener that has been opened. -/
def listeningLine (port : Nat) : LogLine :=
  ⟨.info, logger, "server listening on ".toList ++ Text.ofNat port⟩

/-- How a start ended before anything was served, or that the server is up. -/
inductive Progress where
  | ended (started : Bool)
  | raised (e : StartFailure)
  | up
  deriving DecidableEq, Repr

/-- What a start came to: how far it got, the server then, what was logged, and the sockets that
were created as they were left. -/
structure Launch where
  progress : Progress
  server : Server
  log : List LogLine
  socket : Option Socket

/-- A start that ends with a line. -/
def refuse (s : Server) (message : Text) (socket : Option Socket) : Launch :=
  ⟨.ended false, s, [failedLine message], socket⟩

/-- The start of serving on a listener that has been opened. It is closed if the server cannot be
set up. -/
def serveOn (s : Server) (socket : Socket) : Launch :=
  let s := { s with port := some socket.port }
  let log := [listeningLine socket.port]
  match Level.checkServer s.settings.logLevel with
  | .error name => ⟨.raised (.unknownLevel name), s, log, some { socket with closed := true }⟩
  | .ok () =>
      ⟨.up, { s with serving := true }, log ++ [App.startLine s.settings], some socket⟩

/-- Starts a server, `listen` being the attempt to open its listener. -/
def launchWith (s : Server) (v : Vantage) (listen : Attempt) : Launch :=
  match s.settings.check v with
  | .error (.problems list) => s.refuse (Problem.summary list) none
  | .error (.system e path) => ⟨.raised (.check e path), s, [], none⟩
  | .ok () =>
      match listen.result with
      | .error (.startup host port e) =>
          s.refuse (ListenError.message (.startup host port e)) listen.socket
      | .error (.call e) => ⟨.raised (.call e), s, [], listen.socket⟩
      | .ok socket => s.serveOn socket

def launch (s : Server) (v : Vantage) (n : Network) : Launch :=
  s.launchWith v (n.listen s.settings.host s.settings.port)

/-- The end of serving: `served` has been logged meanwhile, and `loop` tells how serving ended,
which is well if the server was asked to stop. The listener is closed in any case. -/
def Launch.finish (l : Launch) (served : List LogLine) (loop : Except CallError Unit) : Launch :=
  match l.progress with
  | .up =>
      let socket := l.socket.map fun s => { s with closed := true }
      match loop with
      | .ok () =>
          { l with progress := .ended true, log := l.log ++ served ++ [App.stopLine], socket }
      | .error e => { l with progress := .raised (.call e), log := l.log ++ served, socket }
  | _ => l

/-- A start that is stopped as soon as it is up. -/
def start (s : Settings) (v : Vantage) (n : Network) : Except MountError Launch :=
  (create s).map fun server => (server.stop.launch v n).finish [] (.ok ())

end Server
end StaticSite
