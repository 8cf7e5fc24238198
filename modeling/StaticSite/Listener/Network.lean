import StaticSite.Address.HostName
import StaticSite.Listener.Socket

/-! The network as the machine offers it: its addresses, the ports that are taken, the port that is
given to whoever asks for none in particular, and the names it knows without asking elsewhere. -/

namespace StaticSite

structure Network where
  isLocal : Address → Bool
  taken : List (Address × Nat)
  freePort : Nat
  hosts : List (Text × Address)
  reachable : Bool

namespace Network

/-- Whether two listeners on one port are in each other's way. -/
def conflict (a b : Address) : Bool :=
  a.plain == b.plain || a.isWildcard || b.isWildcard

/-- The name that stands for all machines around. -/
def broadcastName : Text := "<broadcast>".toList

/-- The address of eight groups that a name denotes. -/
def resolveV6 (name : Text) : Except SystemError Address :=
  match Address.V6.readZoned? name with
  | some groups => .ok (.v6 groups)
  | none => .error .unknownName

/-- The address of four bytes that a name denotes. No name at all stands for all of them, an address
of eight groups will do only if it stands for one of four bytes, and the names that the machine
knows ignore case. -/
def resolveV4 (n : Network) (name : Text) : Except SystemError Address :=
  if name = [] then .ok (.v4 0)
  else if name = broadcastName then .ok (.v4 0xffffffff)
  else match Address.V4.read? name with
    | some bytes => .ok (.v4 bytes)
    | none =>
        match Address.V6.readZoned? name with
        | some groups =>
            match Address.V6.mapped? groups with
            | some bytes => .ok (.v4 bytes)
            | none => .error .otherFamily
        | none =>
            match n.hosts.lookup name.asciiLower with
            | some address => .ok address
            | none => .error .unknownName

/-- The address that a host denotes. A colon in it tells the kind of address that it must be. -/
def resolve (n : Network) (host name : Text) : Except SystemError Address :=
  if host.contains ':' then resolveV6 name else n.resolveV4 name

def maxPort : Int := 65535

/-- Whether an integer fits into a word of 32 bits. -/
def fitsHalfWord (n : Int) : Bool :=
  -0x80000000 ≤ n && n < 0x80000000

/-- The name of a host as it is looked up, if there is one. -/
def lookupName (host : Text) : Except CallError Text :=
  match HostName.toAscii? host with
  | none => .error .hostNotEncodable
  | some name => if name.contains '\x00' then .error .nullInHost else .ok name

def bindTo (n : Network) (address : Address) (port : Int) : Except CallError (Address × Nat) :=
  if port < 0 ∨ maxPort < port then .error .portOutOfRange
  else if address.needsLink then .error (.system .invalidArgument)
  else if !n.isLocal address.plain then .error (.system .addressUnavailable)
  else if port = 0 then .ok (address, n.freePort)
  else if n.taken.any fun (other, p) => (p : Int) = port ∧ conflict address other then
    .error (.system .addressInUse)
  else .ok (address, port.toNat)

/-- The answer to binding a socket to a host and a port. The host is looked up before the port is
looked at, unless that is not even a small number. -/
def bind (n : Network) (host : Text) (port : Int) : Except CallError (Address × Nat) :=
  match lookupName host with
  | .error e => .error e
  | .ok name =>
      if !fitsHalfWord port then .error .portOutOfRange
      else match n.resolve host name with
        | .error e => .error (.system e)
        | .ok address => n.bindTo address port

/-- The answers to the calls that open a listener. -/
def calls (n : Network) (host : Text) (port : Int) : SocketCalls :=
  ⟨.ok (), .ok (), n.bind host port, .ok (), .ok ()⟩

/-- An attempt to listen at a host and a port. -/
def listen (n : Network) (host : Text) (port : Int) : Attempt :=
  Listener.openWith (n.calls host port) host port

/-- The network once a socket listens. -/
def occupy (n : Network) (s : Socket) : Network :=
  { n with taken := (s.address, s.port) :: n.taken }

/-- The answer to a client that connects to a listener of the machine. -/
def connect (n : Network) : Except SystemError Unit :=
  if n.reachable then .ok () else .error .networkUnreachable

end Network
end StaticSite
