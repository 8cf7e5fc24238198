import StaticSite.Proofs.StartOutcome

/-! What becomes of sockets. An attempt to listen cares for the socket that it created while three calls
are made on it, and its care is for refusals of the system only. So there are two ways to leave a socket
open: one of the three calls fails otherwise, or the call after them fails in any way. A socket that is
returned is in the care of the start, which closes it however it ends. -/

namespace StaticSite

/-! ### An attempt to listen -/

/-- No socket of an attempt is left open: what it returns is the socket that it created, and that one
listens and can be inherited; and if it returns nothing, what it created is closed. -/
structure Attempt.Accounts (a : Attempt) : Prop where
  returned : ∀ s, a.result = .ok s →
    a.socket = some s ∧ s.listening = true ∧ s.inheritable = true ∧ s.closed = false
  closed : ∀ e, a.result = .error e → ∀ s ∈ a.socket, s.closed = true

namespace SocketCalls

/-- The calls on a socket that is cared for, up to the first that fails. -/
def guarded (calls : SocketCalls) : Except CallError Unit := do
  calls.setReuse
  let _ ← calls.bind
  calls.listen

/-- How a socket comes to be left to itself, and for which error. -/
inductive Strands (calls : SocketCalls) (e : CallError) : Prop
  | guarded (hcreate : calls.create = .ok ()) (hfails : calls.guarded = .error e)
      (hother : ∀ cause, e ≠ .system cause)
  | unguarded (hcreate : calls.create = .ok ()) (hbound : calls.guarded = .ok ())
      (hfails : calls.setInheritable = .error e)

variable {calls : SocketCalls}

theorem not_strands_of_create {cause : CallError} (h : calls.create = .error cause) (e : CallError) :
    ¬ calls.Strands e := by
  rintro (⟨hcreate, -, -⟩ | ⟨hcreate, -, -⟩) <;>
  · rw [h] at hcreate
    cases hcreate

theorem not_strands_of_system {cause : SystemError} (h : calls.guarded = .error (.system cause))
    (e : CallError) : ¬ calls.Strands e := by
  rintro (⟨-, hfails, hother⟩ | ⟨-, hbound, -⟩)
  · rw [h] at hfails
    exact hother cause (Except.error.inj hfails).symm
  · rw [h] at hbound
    cases hbound

theorem not_strands_of_ok (hguarded : calls.guarded = .ok ()) (hlast : calls.setInheritable = .ok ())
    (e : CallError) : ¬ calls.Strands e := by
  rintro (⟨-, hfails, -⟩ | ⟨-, -, hfails⟩)
  · rw [hguarded] at hfails
    cases hfails
  · rw [hlast] at hfails
    cases hfails

theorem Strands.unique {e e' : CallError} (h : calls.Strands e) (h' : calls.Strands e') : e = e' := by
  rcases h with ⟨-, hfails, -⟩ | ⟨-, hbound, hfails⟩ <;>
    rcases h' with ⟨-, hfails', -⟩ | ⟨-, hbound', hfails'⟩
  · exact Except.error.inj (hfails.symm.trans hfails')
  · cases hfails.symm.trans hbound'
  · cases hbound.symm.trans hfails'
  · exact Except.error.inj (hfails.symm.trans hfails')

end SocketCalls

namespace Listener
variable {calls : SocketCalls} {host : Text} {port : Int} {a : Attempt}

/-- How an attempt ends, and how it leaves the socket then. -/
inductive Leaves (calls : SocketCalls) (host : Text) (port : Int) : Attempt → Prop
  | uncreated {e : CallError} (hcreate : calls.create = .error e) :
      Leaves calls host port ⟨.error (.call e), none⟩
  | refused {cause : SystemError} (s : Socket) (hfails : calls.guarded = .error (.system cause)) :
      Leaves calls host port ⟨.error (.startup host port cause), some { s with closed := true }⟩
  | stranded {e : CallError} {s : Socket} (hstrands : calls.Strands e) (hopen : s.closed = false) :
      Leaves calls host port ⟨.error (.call e), some s⟩
  | returned {s : Socket} (hguarded : calls.guarded = .ok ()) (hlast : calls.setInheritable = .ok ())
      (hs : s.listening = true ∧ s.inheritable = true ∧ s.closed = false) :
      Leaves calls host port ⟨.ok s, some s⟩

theorem leaves_fail {s : Socket} {e : CallError} (hcreate : calls.create = .ok ())
    (hfails : calls.guarded = .error e) (hopen : s.closed = false) :
    Leaves calls host port (fail host port s e) := by
  cases e with
  | system cause => exact .refused s hfails
  | portOutOfRange | nullInHost | hostNotEncodable | other message =>
      exact .stranded (.guarded hcreate hfails nofun) hopen

/-- The calls are followed in their order, each with the socket as the calls before it left it. -/
theorem leaves_openWith (calls : SocketCalls) (host : Text) (port : Int) :
    Leaves calls host port (openWith calls host port) := by
  rw [openWith]
  cases hcreate : calls.create with
  | error e => exact .uncreated hcreate
  | ok =>
      dsimp only
      cases hreuse : calls.setReuse with
      | error e => exact leaves_fail hcreate (by rw [SocketCalls.guarded, hreuse]; rfl) rfl
      | ok =>
          cases hbind : calls.bind with
          | error e => exact leaves_fail hcreate (by rw [SocketCalls.guarded, hreuse, hbind]; rfl) rfl
          | ok bound =>
              have hguarded : calls.guarded = calls.listen := by
                rw [SocketCalls.guarded, hreuse, hbind]
                rfl
              cases hlisten : calls.listen with
              | error e => exact leaves_fail hcreate (hguarded.trans hlisten) rfl
              | ok =>
                  -- From here on nothing cares for the socket.
                  dsimp only
                  cases hlast : calls.setInheritable with
                  | error e => exact .stranded (.unguarded hcreate (hguarded.trans hlisten) hlast) rfl
                  | ok => exact .returned (hguarded.trans hlisten) hlast ⟨rfl, rfl, rfl⟩

/-- A socket is left open by exactly the two ways there are. -/
theorem Leaves.accounts_iff (h : Leaves calls host port a) :
    a.Accounts ↔ ∀ e, ¬ calls.Strands e := by
  cases h with
  | uncreated hcreate => exact iff_of_true ⟨nofun, nofun⟩ (SocketCalls.not_strands_of_create hcreate)
  | refused s hfails =>
      refine iff_of_true ⟨nofun, ?_⟩ (SocketCalls.not_strands_of_system hfails)
      rintro _ - _ ⟨⟩
      rfl
  | @stranded e s hstrands hopen =>
      refine iff_of_false (fun haccounts => ?_) (fun hnone => hnone e hstrands)
      have hclosed := haccounts.closed _ rfl s rfl
      rw [hopen] at hclosed
      cases hclosed
  | returned hguarded hlast hs =>
      refine iff_of_true ⟨?_, nofun⟩ (SocketCalls.not_strands_of_ok hguarded hlast)
      rintro _ ⟨⟩
      exact ⟨rfl, hs⟩

/-- The error is raised as it is then, and the socket stays as it was. -/
theorem Leaves.of_strands {e : CallError} (h : Leaves calls host port a) (hstrands : calls.Strands e) :
    a.result = .error (.call e) ∧ ∃ s, a.socket = some s ∧ s.closed = false := by
  cases h with
  | uncreated hcreate => exact absurd hstrands (SocketCalls.not_strands_of_create hcreate e)
  | refused s hfails => exact absurd hstrands (SocketCalls.not_strands_of_system hfails e)
  | @stranded e' s hstrands' hopen =>
      rw [hstrands.unique hstrands']
      exact ⟨rfl, s, rfl, hopen⟩
  | returned hguarded hlast => exact absurd hstrands (SocketCalls.not_strands_of_ok hguarded hlast e)

end Listener

/-! ### A start -/

namespace Server
variable {server : Server} {v : Vantage} {attempt : Attempt} {served : List LogLine}
  {loop : Except CallError Unit}

/-- A socket that is served on is closed at the end, whether the level of the log is known or not, and
however serving ends. -/
theorem finish_serveOn (server : Server) (socket : Socket) (served : List LogLine)
    (loop : Except CallError Unit) :
    let l := (server.serveOn socket).finish served loop
    l.progress ≠ .up ∧ l.socket = some { socket with closed := true } := by
  intro l
  cases hlevel : Level.checkServer server.settings.logLevel with
  | error name => simp [l, serveOn, hlevel, Launch.finish]
  | ok =>
      cases loop with
      | error e => simp [l, serveOn, hlevel, Launch.finish]
      | ok => simp [l, serveOn, hlevel, Launch.finish]

theorem finish_of_unchecked {e : CheckError} (hcheck : server.settings.check v = .error e) :
    let l := (server.launchWith v attempt).finish served loop
    l.progress ≠ .up ∧ l.socket = none := by
  intro l
  cases e <;> simp [l, launchWith, hcheck, refuse, Launch.finish]

theorem finish_of_error {e : ListenError} (hcheck : server.settings.check v = .ok ())
    (hresult : attempt.result = .error e) :
    let l := (server.launchWith v attempt).finish served loop
    l.progress ≠ .up ∧ l.socket = attempt.socket := by
  intro l
  cases e <;> simp [l, launchWith, hcheck, hresult, refuse, Launch.finish]

theorem finish_of_socket {socket : Socket} (hcheck : server.settings.check v = .ok ())
    (hresult : attempt.result = .ok socket) :
    let l := (server.launchWith v attempt).finish served loop
    l.progress ≠ .up ∧ l.socket = some { socket with closed := true } := by
  rw [launchWith_of_socket hcheck hresult]
  exact finish_serveOn server socket served loop

/-- A start is over in the end: it has returned or raised. -/
theorem finish_over (server : Server) (v : Vantage) (attempt : Attempt) (served : List LogLine)
    (loop : Except CallError Unit) :
    ((server.launchWith v attempt).finish served loop).progress ≠ .up := by
  cases hcheck : server.settings.check v with
  | error e => exact (finish_of_unchecked hcheck).1
  | ok =>
      cases hresult : attempt.result with
      | error e => exact (finish_of_error hcheck hresult).1
      | ok socket => exact (finish_of_socket hcheck hresult).1

/-- What a start leaves open is what its attempt to listen left to itself. -/
theorem closed_iff_of_leaves {calls : SocketCalls} {host : Text} {port : Int}
    (h : Listener.Leaves calls host port attempt) (served : List LogLine)
    (loop : Except CallError Unit) :
    (∀ s ∈ ((server.launchWith v attempt).finish served loop).socket, s.closed = true) ↔
      (server.settings.check v = .ok () → ∀ e, ¬ calls.Strands e) := by
  cases hcheck : server.settings.check v with
  | error e =>
      refine iff_of_true ?_ nofun
      rw [(finish_of_unchecked hcheck).2]
      exact nofun
  | ok =>
      rw [forall_prop_of_true rfl]
      cases hresult : attempt.result with
      | error e =>
          rw [(finish_of_error hcheck hresult).2, ← h.accounts_iff]
          refine ⟨fun hclosed => ⟨fun s hs => ?_, fun _ _ => hclosed⟩, fun haccounts =>
            haccounts.closed e hresult⟩
          rw [hresult] at hs
          cases hs
      | ok socket =>
          refine iff_of_true ?_ fun e hstrands => ?_
          · rw [(finish_of_socket hcheck hresult).2]
            rintro _ ⟨⟩
            rfl
          · have herror := (h.of_strands hstrands).1
            rw [hresult] at herror
            cases herror

/-- No socket stays open when a start is over, unless the attempt to listen left one to itself: for this
it takes a call under its care that fails otherwise than by the system, or the call after them that
fails. Its error is then raised as it is. -/
theorem closed_unless_stranded (server : Server) (v : Vantage) (calls : SocketCalls) (host : Text)
    (port : Int) (served : List LogLine) (loop : Except CallError Unit) :
    let attempt := Listener.openWith calls host port
    let l := (server.launchWith v attempt).finish served loop
    (attempt.Accounts ↔ ∀ e, ¬ calls.Strands e) ∧
    (∀ e, calls.Strands e →
      attempt.result = .error (.call e) ∧ ∃ s, attempt.socket = some s ∧ s.closed = false) ∧
    l.progress ≠ .up ∧
    (∀ socket, server.settings.check v = .ok () → attempt.result = .ok socket →
      l.socket = some { socket with closed := true }) ∧
    ((∀ s ∈ l.socket, s.closed = true) ↔
      (server.settings.check v = .ok () → ∀ e, ¬ calls.Strands e)) := by
  intro attempt l
  have hleaves : Listener.Leaves calls host port attempt := Listener.leaves_openWith calls host port
  exact ⟨hleaves.accounts_iff, fun e => hleaves.of_strands, finish_over server v attempt served loop,
    fun socket hcheck hresult => (finish_of_socket hcheck hresult).2,
    closed_iff_of_leaves hleaves served loop⟩

end Server

/-! ### On a network -/

namespace Network
variable {n : Network} {host : Text} {port : Int} {e : CallError}

/-- Only binding fails on a network. -/
theorem strands_calls_iff :
    (n.calls host port).Strands e ↔ n.bind host port = .error e ∧ ∀ cause, e ≠ .system cause := by
  have hguarded : (n.calls host port).guarded = (n.bind host port).map fun _ => () := by
    simp only [SocketCalls.guarded, calls]
    cases n.bind host port <;> rfl
  constructor
  · rintro (⟨-, hfails, hother⟩ | ⟨-, -, hfails⟩)
    · rw [hguarded] at hfails
      cases hbind : n.bind host port with
      | error e' =>
          rw [hbind] at hfails
          cases hfails
          exact ⟨rfl, hother⟩
      | ok bound =>
          rw [hbind] at hfails
          cases hfails
    · cases hfails
  · rintro ⟨hbind, hother⟩
    exact .guarded rfl (by rw [hguarded, hbind]; rfl) hother

/-- So where the port is one, a socket is left to itself if and only if the host is no name. -/
theorem strands_calls_iff_of_port (hport : 0 ≤ port ∧ port ≤ maxPort) :
    (n.calls host port).Strands e ↔ lookupName host = .error e := by
  rw [strands_calls_iff]
  constructor
  · rintro ⟨hbind, hother⟩
    rcases bind_error hport hbind with hname | ⟨cause, he⟩
    · exact hname
    · exact absurd he (hother cause)
  · intro hname
    refine ⟨bind_of_name_error hname port, ?_⟩
    rintro cause rfl
    exact lookupName_ne_system host cause hname

end Network

/-- On a network, a start whose settings pass the check leaves a socket open if and only if their host is
no name, since the check looks at the port. -/
theorem Server.closed_on_network_iff (server : Server) (v : Vantage) (n : Network)
    (served : List LogLine) (loop : Except CallError Unit) :
    (∀ s ∈ ((server.launch v n).finish served loop).socket, s.closed = true) ↔
      (server.settings.check v = .ok () → ∃ name, Network.lookupName server.settings.host = .ok name) := by
  have hleaves := Listener.leaves_openWith (n.calls server.settings.host server.settings.port)
    server.settings.host server.settings.port
  rw [launch, Network.listen, closed_iff_of_leaves hleaves]
  refine forall_congr' fun hcheck => ?_
  simp only [Network.strands_calls_iff_of_port (Settings.port_of_check hcheck)]
  cases Network.lookupName server.settings.host <;> simp

/-! ### A port out of range -/

namespace OutOfRange

def host : Text := "127.0.0.1".toList

def port : Int := 70000

/-- Binding fails, which is raised as it is, and the socket stays open. A socket that a start is given is
closed, also when serving is cut short. -/
theorem left_open :
    let attempt := LostPort.network.listen host port
    let l := (LostPort.server.launch LostPort.vantage LostPort.network).finish []
      (.error (.other "Interrupted".toList))
    attempt.result = .error (.call .portOutOfRange) ∧
      (∃ s, attempt.socket = some s ∧ s.closed = false) ∧ ¬ attempt.Accounts ∧
      l.progress ≠ .up ∧ l.socket = some ⟨.v4 0x7f000001, 8080, true, true, true, true⟩ := by
  have hstrands : (LostPort.network.calls host port).Strands .portOutOfRange :=
    Network.strands_calls_iff.mpr ⟨by decide +kernel, nofun⟩
  have hcheck : LostPort.server.settings.check LostPort.vantage = .ok () := by decide +kernel
  have hresult : (LostPort.network.listen LostPort.settings.host LostPort.settings.port).result =
      .ok ⟨.v4 0x7f000001, 8080, true, true, true, false⟩ := by decide +kernel
  obtain ⟨haccounts, hleft, -⟩ := Server.closed_unless_stranded LostPort.server LostPort.vantage
    (LostPort.network.calls host port) host port [] (.ok ())
  obtain ⟨-, -, hover, hreturned, -⟩ := Server.closed_unless_stranded LostPort.server LostPort.vantage
    (LostPort.network.calls LostPort.settings.host LostPort.settings.port) LostPort.settings.host
    LostPort.settings.port [] (.error (.other "Interrupted".toList))
  obtain ⟨hraised, hopen⟩ := hleft _ hstrands
  exact ⟨hraised, hopen, fun h => haccounts.mp h _ hstrands, hover, hreturned _ hcheck hresult⟩

end OutOfRange

end StaticSite
