import StaticSite.Proofs.Material
import StaticSite.Proofs.Starting
import StaticSite.Server.Connection

/-! What a start leaves behind: its answer, the lines that the server writes, its port, and whether it
serves. Either the start fails and says why in its only line, or its only line tells the port that it
listens on; whether it then serves is for the level of the log to decide. -/

namespace StaticSite

variable {s : Settings} {v : Vantage} {n : Network}

/-! ### Who writes the lines of a server that is up -/

namespace App

variable {c : Circumstances} {r : Request}

theorem logger_conclude (result : Except Failure Delivery) :
    ∀ line ∈ (conclude c r result).log, line.logger = logger := by
  intro line hline
  unfold conclude at hline
  cases result <;> cases hshown : r.shownPath <;> simp only [hshown] at hline
  case error.ok => rw [List.mem_singleton.mp hline, failedLine]
  case ok.ok => rw [List.mem_singleton.mp hline, answeredLine]
  all_goals cases hline

end App

namespace Connection

theorem logger_answerWithin (side : Side) (client : Text) (count : Nat) (a : App) (received : Text) :
    ∀ reply ∈ (answerWithin side client count a received).2, ∀ line ∈ reply.log,
      line.logger = App.logger := by
  induction count generalizing a received with
  | zero => nofun
  | succ count ih =>
      have hrefusal : ∀ reply ∈ [refusal], ∀ line ∈ reply.log, line.logger = App.logger := by
        intro reply hreply line hline
        rw [List.mem_singleton.mp hreply] at hline
        cases hline
      rw [answerWithin]
      split
      · nofun
      split
      · exact hrefusal
      split
      · exact hrefusal
      -- The reply to this request carries the lines of the site; the others come after it.
      dsimp only
      split
      · rintro reply (_ | ⟨_, hreply⟩)
        · exact App.logger_conclude _
        · exact ih _ _ reply hreply
      · intro reply hreply
        rw [List.mem_singleton.mp hreply]
        exact App.logger_conclude _

/-- While a server is up, only its site writes lines. -/
theorem logger_run (side : Side) (a : App) (events : List Event) :
    ∀ line ∈ (run side a events).2, line.logger = App.logger := by
  induction events generalizing side a with
  | nil => nofun
  | cons event rest ih =>
      cases event with
      | edit e => exact ih _ a
      | connection client sent =>
          intro line hline
          rcases List.mem_append.mp hline with hline | hline
          · obtain ⟨reply, hreply, hline⟩ := List.mem_flatMap.mp hline
            exact logger_answerWithin side client _ a _ reply hreply line hline
          · exact ih _ _ line hline

end Connection

/-! ### The port -/

/-- A port other than zero is the one that is bound. -/
theorem Network.port_of_bind {host : Text} {port : Int} {address : Address} {bound : Nat}
    (h : n.bind host port = .ok (address, bound)) (hport : port ≠ 0) : (bound : Int) = port := by
  rw [bind] at h
  split at h
  · cases h
  split at h
  · cases h
  split at h
  · cases h
  · rw [bindTo, if_neg hport] at h
    split at h
    · cases h
    split at h
    · cases h
    split at h
    · cases h
    split at h
    · cases h
    · cases h
      omega

/-- A listener that could be opened has the address and the port that it was bound to. -/
theorem Listener.bind_of_openWith {calls : SocketCalls} {host : Text} {port : Int} {socket : Socket}
    (h : (openWith calls host port).result = .ok socket) :
    calls.bind = .ok (socket.address, socket.port) := by
  have hfail : ∀ s e, (fail host port s e).result ≠ .ok socket := by
    intro s e
    cases e <;> nofun
  rw [openWith] at h
  split at h
  · cases h
  split at h
  · exact absurd h (hfail _ _)
  dsimp only at h
  split at h
  · exact absurd h (hfail _ _)
  · rename_i address bound hbind
    split at h
    · exact absurd h (hfail _ _)
    split at h
    · cases h
    · cases h
      exact hbind

/-! ### The start -/

namespace Server

/-- The lines of a start that the server itself writes. -/
def Launch.ownLog (l : Launch) : List LogLine :=
  l.log.filter fun line => line.logger = logger

/-- A start that is refused: it says so, tells why in its only line, and leaves neither a port nor
anything that serves. -/
structure Launch.Fails (l : Launch) (message : Text) : Prop where
  ended : l.progress = .ended false
  log : l.log = [failedLine message]
  port : l.server.port = none
  serving : l.server.serving = false

/-- A start whose server is asked to stop after some events, if it came up. -/
def Launch.stopAfter (l : Launch) (v : Vantage) (c : Circumstances) (host : Text)
    (events : List Connection.Event) : Launch :=
  l.finish (Connection.run ⟨v, c, host, l.server.port.getD 0⟩ l.server.app events).2 (.ok ())

theorem of_create {server : Server} (h : create s = .ok server) :
    server.settings = s ∧ server.port = none ∧ server.serving = false := by
  rw [create] at h
  cases happ : App.create s with
  | error e =>
      rw [happ] at h
      cases h
  | ok app =>
      rw [happ] at h
      cases h
      exact ⟨rfl, rfl, rfl⟩

theorem fails_refuse {server : Server} (hport : server.port = none)
    (hserving : server.serving = false) (message : Text) (socket : Option Socket) :
    (server.refuse message socket).Fails message :=
  ⟨rfl, rfl, hport, hserving⟩

variable {server : Server} {attempt : Attempt} {c : Circumstances} {host : Text}
  {events : List Connection.Event}

theorem stopAfter_of_not_up {l : Launch} (h : l.progress ≠ .up) :
    l.stopAfter v c host events = l := by
  unfold Launch.stopAfter Launch.finish
  split
  · exact absurd ‹_› h
  · rfl

/-- What is left of a start on a listener: the port is told in the only line of the server, and the
server serves, and ends well, exactly if it knows the level of its log. -/
theorem stopAfter_serveOn (server : Server) (socket : Socket) :
    let l := (server.serveOn socket).stopAfter v c host events
    l.server.port = some socket.port ∧ l.ownLog = [listeningLine socket.port] ∧
      (server.settings.logLevel.lower ∈ Level.serverNames → l.progress = .ended true) ∧
      (server.settings.logLevel.lower ∉ Level.serverNames →
        l.progress = .raised (.unknownLevel server.settings.logLevel.lower) ∧
          l.server.serving = server.serving) := by
  intro l
  by_cases hlevel : server.settings.logLevel.lower ∈ Level.serverNames
  · have hcheck : Level.checkServer server.settings.logLevel = .ok () :=
      if_pos (List.elem_iff.mpr hlevel)
    have hserve : server.serveOn socket =
        ⟨.up, { server with port := some socket.port, serving := true },
          [listeningLine socket.port, App.startLine server.settings], some socket⟩ := by
      simp only [serveOn, hcheck]
      rfl
    simp only [l, hserve, Launch.stopAfter, Launch.finish, Launch.ownLog]
    refine ⟨trivial, ?_, fun _ => trivial, fun h => absurd hlevel h⟩
    have hserved : (Connection.run ⟨v, c, host, (some socket.port).getD 0⟩ server.app events).2.filter
        (fun line => line.logger = logger) = [] := by
      refine List.filter_eq_nil_iff.mpr fun line hline => ?_
      rw [Connection.logger_run _ _ _ line hline]
      decide
    rw [List.filter_append, List.filter_append, hserved]
    rfl
  · have hcheck : Level.checkServer server.settings.logLevel =
        .error server.settings.logLevel.lower :=
      if_neg fun h => hlevel (List.elem_iff.mp h)
    have hserve : server.serveOn socket =
        ⟨.raised (.unknownLevel server.settings.logLevel.lower),
          { server with port := some socket.port }, [listeningLine socket.port],
          some { socket with closed := true }⟩ := by
      simp only [serveOn, hcheck]
    have hstop : l = server.serveOn socket :=
      stopAfter_of_not_up (by rw [hserve]; exact Progress.noConfusion)
    rw [hstop, hserve]
    exact ⟨rfl, rfl, fun h => absurd h hlevel, fun _ => ⟨rfl, rfl⟩⟩

theorem listeningLine_ne_failedLine (port : Nat) (message : Text) :
    listeningLine port ≠ failedLine message :=
  fun h => Level.noConfusion (congrArg LogLine.level h)

theorem not_mem_log_of_ownLog {l : Launch} {port : Nat} (h : l.ownLog = [listeningLine port])
    (message : Text) : failedLine message ∉ l.log := by
  intro hfailed
  have hown : failedLine message ∈ l.ownLog := List.mem_filter.mpr ⟨hfailed, decide_eq_true rfl⟩
  rw [h, List.mem_singleton] at hown
  exact listeningLine_ne_failedLine _ _ hown.symm

/-! ### One ending for each way in which a start goes -/

section
variable (hport : server.port = none) (hserving : server.serving = false)

include hport hserving in
theorem fails_of_problems {list : List Problem}
    (hcheck : server.settings.check v = .error (.problems list)) :
    ((server.launchWith v attempt).stopAfter v c host events).Fails (Problem.summary list) := by
  have hlaunch : server.launchWith v attempt = server.refuse (Problem.summary list) none := by
    rw [launchWith, hcheck]
  rw [hlaunch, stopAfter_of_not_up Progress.noConfusion]
  exact fails_refuse hport hserving _ _

include hport hserving in
theorem fails_of_startup {asked : Text} {port : Int} {e : SystemError}
    (hcheck : server.settings.check v = .ok ())
    (hresult : attempt.result = .error (.startup asked port e)) :
    ((server.launchWith v attempt).stopAfter v c host events).Fails
      (ListenError.message (.startup asked port e)) := by
  have hlaunch : server.launchWith v attempt =
      server.refuse (ListenError.message (.startup asked port e)) attempt.socket := by
    rw [launchWith, hcheck]
    dsimp only
    rw [hresult]
  rw [hlaunch, stopAfter_of_not_up Progress.noConfusion]
  exact fails_refuse hport hserving _ _

end

theorem stopAfter_of_system {e : SystemError} {path : Text}
    (hcheck : server.settings.check v = .error (.system e path)) :
    (server.launchWith v attempt).stopAfter v c host events =
      ⟨.raised (.check e path), server, [], none⟩ := by
  have hlaunch : server.launchWith v attempt = ⟨.raised (.check e path), server, [], none⟩ := by
    rw [launchWith, hcheck]
  rw [hlaunch, stopAfter_of_not_up Progress.noConfusion]

theorem stopAfter_of_call {e : CallError} (hcheck : server.settings.check v = .ok ())
    (hresult : attempt.result = .error (.call e)) :
    (server.launchWith v attempt).stopAfter v c host events =
      ⟨.raised (.call e), server, [], attempt.socket⟩ := by
  have hlaunch : server.launchWith v attempt = ⟨.raised (.call e), server, [], attempt.socket⟩ := by
    rw [launchWith, hcheck]
    dsimp only
    rw [hresult]
  rw [hlaunch, stopAfter_of_not_up Progress.noConfusion]

theorem launchWith_of_socket {socket : Socket} (hcheck : server.settings.check v = .ok ())
    (hresult : attempt.result = .ok socket) :
    server.launchWith v attempt = server.serveOn socket := by
  rw [launchWith, hcheck]
  dsimp only
  rw [hresult]

/-- What keeps a server from starting: its settings have problems, or the system gives no listener. -/
def Unable (server : Server) (v : Vantage) (attempt : Attempt) : Prop :=
  (∃ list, server.settings.check v = .error (.problems list)) ∨
    server.settings.check v = .ok () ∧
      ∃ host port e, attempt.result = .error (.startup host port e)

/-- A start fails with its only line, or it ends otherwise and no line tells of a failure. -/
theorem fails_or_not (hport : server.port = none) (hserving : server.serving = false) :
    let l := (server.launchWith v attempt).stopAfter v c host events
    (server.Unable v attempt ∧ ∃ message, l.Fails message) ∨
      (¬ server.Unable v attempt ∧ l.progress ≠ .ended false ∧ ∀ message, failedLine message ∉ l.log) := by
  intro l
  unfold Unable
  rcases hcheck : server.settings.check v with (list | ⟨e, path⟩) | _
  · exact Or.inl ⟨Or.inl ⟨list, rfl⟩, _, fails_of_problems hport hserving hcheck⟩
  · have hl : l = _ := stopAfter_of_system hcheck
    rw [hl]
    exact Or.inr ⟨by simp, nofun, nofun⟩
  · rcases hresult : attempt.result with (⟨asked, port, e⟩ | e) | socket
    · exact Or.inl ⟨Or.inr ⟨rfl, _, _, _, rfl⟩, _, fails_of_startup hport hserving hcheck hresult⟩
    · have hl : l = _ := stopAfter_of_call hcheck hresult
      rw [hl]
      exact Or.inr ⟨by simp, nofun, nofun⟩
    · have hleft := @stopAfter_serveOn v c host events server socket
      rw [← launchWith_of_socket hcheck hresult] at hleft
      obtain ⟨-, hlog, hknown, hunknown⟩ := hleft
      refine Or.inr ⟨by simp, ?_, not_mem_log_of_ownLog hlog⟩
      by_cases hlevel : server.settings.logLevel.lower ∈ Level.serverNames
      · rw [hknown hlevel]
        nofun
      · rw [(hunknown hlevel).1]
        nofun

/-! ### All endings -/

/-- The outcome of a start, whatever the settings, the tree and the ports are, and whatever is served
until the server is asked to stop. Where the settings have problems or the system gives no listener,
it fails for that; where it gives one, the only line of the server tells the port of this listener,
and the start answers well or, where the level of the log is not known, is ended by that; where the
directory cannot be looked at, there is no listener and no line. No start both listens and fails. -/
theorem start_outcome {server : Server} (hcreate : create s = .ok server) (v : Vantage)
    (n : Network) (others : SocketCalls) (c : Circumstances) (host : Text)
    (events : List Connection.Event) :
    let attempt := Listener.openWith { others with bind := n.bind s.host s.port } s.host s.port
    let l := (server.stop.launchWith v attempt).stopAfter v c host events
    (∀ list, s.check v = .error (.problems list) → l.Fails (Problem.summary list)) ∧
    (∀ host port e, s.check v = .ok () → attempt.result = .error (.startup host port e) →
      l.Fails (ListenError.message (.startup host port e))) ∧
    (∀ socket, s.check v = .ok () → attempt.result = .ok socket →
      l.server.port = some socket.port ∧ (s.port ≠ 0 → (socket.port : Int) = s.port) ∧
        l.ownLog = [listeningLine socket.port] ∧
        (s.logLevel.lower ∈ Level.serverNames → l.progress = .ended true) ∧
        (s.logLevel.lower ∉ Level.serverNames →
          l.progress = .raised (.unknownLevel s.logLevel.lower) ∧ l.server.serving = false)) ∧
    (∀ e path, s.check v = .error (.system e path) →
      l.progress = .raised (.check e path) ∧ l.socket = none ∧ l.ownLog = []) ∧
    (¬ ∃ port message, listeningLine port ∈ l.log ∧ failedLine message ∈ l.log) ∧
    (l.progress = .ended false ↔
      (∃ list, s.check v = .error (.problems list)) ∨
        s.check v = .ok () ∧ ∃ host port e, attempt.result = .error (.startup host port e)) := by
  obtain ⟨rfl, hport, hserving⟩ := of_create hcreate
  intro attempt l
  have hends : (server.Unable v attempt ∧ ∃ message, l.Fails message) ∨
      (¬ server.Unable v attempt ∧ l.progress ≠ .ended false ∧ ∀ message, failedLine message ∉ l.log) :=
    fails_or_not hport hserving
  refine ⟨fun list => fails_of_problems hport hserving,
    fun host port e => fails_of_startup hport hserving, fun socket hcheck hresult => ?_,
    fun e path hcheck => ?_, ?_, ?_⟩
  · have hleft := @stopAfter_serveOn v c host events server socket
    rw [← launchWith_of_socket hcheck hresult] at hleft
    obtain ⟨hbound, hlog, hknown, hunknown⟩ := hleft
    refine ⟨hbound, Network.port_of_bind (Listener.bind_of_openWith hresult), hlog, hknown,
      fun h => ⟨(hunknown h).1, (hunknown h).2.trans hserving⟩⟩
  · have hl : l = _ := stopAfter_of_system hcheck
    rw [hl]
    exact ⟨rfl, rfl, rfl⟩
  · rintro ⟨port, message, hlistening, hfailed⟩
    rcases hends with ⟨-, message', hfails⟩ | ⟨-, -, hnone⟩
    · rw [hfails.log, List.mem_singleton] at hlistening
      exact listeningLine_ne_failedLine _ _ hlistening
    · exact hnone message hfailed
  · rcases hends with ⟨hunable, message, hfails⟩ | ⟨hunable, hended, -⟩
    · exact iff_of_true hfails.ended hunable
    · exact iff_of_false hended hunable

end Server

/-! ### A port that is lost to another -/

namespace LostPort

def settings : Settings :=
  { Settings.standard "pub".toList with host := "127.0.0.1".toList, port := 8080 }

def server : Server :=
  ⟨settings, ⟨settings, ⟨[]⟩, false⟩, none, false⟩

def vantage : Vantage :=
  ⟨⟨[(["pub".toList], ⟨.directory, 0o755⟩)]⟩, .superuser, []⟩

def network : Network :=
  ⟨fun _ => true, [], 32768, [], true⟩

/-- All calls succeed but the one to listen, before which another listener took the port. -/
def calls : SocketCalls :=
  { network.calls settings.host settings.port with listen := .error (.system .addressInUse) }

/-- The start fails with the port in its only line, and there is no port that it listens on. -/
theorem start_outcome_lost :
    (((server.stop.launchWith vantage
        (Listener.openWith calls settings.host settings.port)).stopAfter vantage ⟨[], [], []⟩ [] []).Fails
      ("could not bind 127.0.0.1:8080: [Errno 98] Address already in use".toList)) := by
  have hcreate : Server.create settings = .ok server := by decide +kernel
  have hcheck : settings.check vantage = .ok () := by decide +kernel
  obtain ⟨-, hlistener, -⟩ :=
    Server.start_outcome hcreate vantage network calls ⟨[], [], []⟩ [] []
  have hfails := hlistener "127.0.0.1".toList 8080 .addressInUse hcheck (by decide +kernel)
  have hmessage : ListenError.message (.startup "127.0.0.1".toList 8080 .addressInUse) =
      "could not bind 127.0.0.1:8080: [Errno 98] Address already in use".toList := by
    decide +kernel
  rw [← hmessage]
  exact hfails

end LostPort

end StaticSite
