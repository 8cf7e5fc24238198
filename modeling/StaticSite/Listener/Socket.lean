import StaticSite.Address.Basic
import StaticSite.SystemError

/-! Opening a listener: the calls it takes, each of which may fail, and what becomes of the socket
when one does. -/

namespace StaticSite

/-- Why a call on a socket failed: the system refused it, or its arguments were not such as it
takes, or something else went wrong. -/
inductive CallError where
  | system (e : SystemError)
  | portOutOfRange
  | nullInHost
  | hostNotEncodable
  | other (message : Text)
  deriving DecidableEq, Repr

def CallError.message : CallError → Text
  | system e => e.message
  | portOutOfRange => "bind(): port must be 0-65535.".toList
  | nullInHost => "host name must not contain null character".toList
  | hostNotEncodable => "encoding of hostname failed".toList
  | other message => message

/-- A bound socket: its address, its port, and what has been done with it. -/
structure Socket where
  address : Address
  port : Nat
  reuse : Bool
  listening : Bool
  inheritable : Bool
  closed : Bool
  deriving DecidableEq, Repr

/-- What each call answers. Binding tells the address and the port that the socket got. -/
structure SocketCalls where
  create : Except CallError Unit
  setReuse : Except CallError Unit
  bind : Except CallError (Address × Nat)
  listen : Except CallError Unit
  setInheritable : Except CallError Unit

/-- Why there is no listener: the system refused, which is reported with the host and the port, or
a call failed otherwise. -/
inductive ListenError where
  | startup (host : Text) (port : Int) (e : SystemError)
  | call (e : CallError)
  deriving DecidableEq, Repr

def ListenError.message : ListenError → Text
  | startup host port e =>
      "could not bind ".toList ++ host ++ [':'] ++ Text.ofInt port ++ ": ".toList ++ e.message
  | call e => e.message

/-- What an attempt to listen came to, and the socket it created as it was left, if it created
one. -/
structure Attempt where
  result : Except ListenError Socket
  socket : Option Socket

namespace Listener

/-- A socket that has just been created. -/
def fresh : Socket :=
  ⟨.v4 0, 0, false, false, false, false⟩

/-- What is made of a failed call on a socket: it is closed if the system refused, and left open
otherwise. -/
def fail (host : Text) (port : Int) (s : Socket) : CallError → Attempt
  | .system e => ⟨.error (.startup host port e), some { s with closed := true }⟩
  | e => ⟨.error (.call e), some s⟩

/-- Opens a listener by the calls in their order. -/
def openWith (calls : SocketCalls) (host : Text) (port : Int) : Attempt :=
  match calls.create with
  | .error e => ⟨.error (.call e), none⟩
  | .ok () =>
      match calls.setReuse with
      | .error e => fail host port fresh e
      | .ok () =>
          let s := { fresh with reuse := true }
          match calls.bind with
          | .error e => fail host port s e
          | .ok (address, bound) =>
              let s := { s with address, port := bound }
              match calls.listen with
              | .error e => fail host port s e
              | .ok () =>
                  let s := { s with listening := true }
                  match calls.setInheritable with
                  | .error e => ⟨.error (.call e), some s⟩
                  | .ok () =>
                      let s := { s with inheritable := true }
                      ⟨.ok s, some s⟩

end Listener
end StaticSite
