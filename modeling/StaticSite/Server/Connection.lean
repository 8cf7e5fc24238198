import StaticSite.FileSystem.Edit
import StaticSite.Server.Start
import StaticSite.Server.Wire

/-! Serving connections: the requests on one connection are answered in turn, until one of them
ends it. The site keeps its state from one connection to the next. -/

namespace StaticSite

namespace Connection

/-- What a server answers with: the site, how it sees the tree, what differs between runs, and
where it listens. -/
structure Side where
  vantage : Vantage
  circumstances : Circumstances
  host : Text
  port : Nat

/-- What one request came to: the message sent back and what was logged. -/
structure Reply where
  message : Wire.Message
  log : List LogLine
  deriving DecidableEq, Repr

def refusal : Reply := ⟨Wire.badRequest, []⟩

/-- The site after the requests in what a client sent, and the replies, of which there are so many
at most. -/
def answerWithin (side : Side) (client : Text) : Nat → App → Text → App × List Reply
  | 0, a, _ => (a, [])
  | count + 1, a, received =>
      match Wire.readLines [] received with
      | none => (a, [])
      | some (lines, rest) =>
          match Wire.readHead? lines with
          | none => (a, [refusal])
          | some head =>
              match head.bodyLength? with
              | none => (a, [refusal])
              | some length =>
                  let request := head.request client side.host side.port
                  let (next, answer) := a.handle side.vantage side.circumstances request
                  let reply : Reply :=
                    ⟨Wire.ofResponse head.keepsOpen (App.headOnly request) answer.response,
                      answer.log⟩
                  if head.keepsOpen && answer.complete then
                    let (last, replies) := answerWithin side client count next (rest.drop length)
                    (last, reply :: replies)
                  else (next, [reply])

/-- The site after a connection on which a client sent some bytes, and the replies. Each request
takes up a byte at least. -/
def answer (side : Side) (a : App) (client : Text) (sent : List UInt8) : App × List Reply :=
  answerWithin side client sent.length a (Wire.ofBytes sent)

/-- What happens while a server is up: a change of the tree, or a connection from an address. -/
inductive Event where
  | edit (e : Edit)
  | connection (client : Text) (sent : List UInt8)

/-- What is seen of an event. -/
inductive Outcome where
  | changed
  | received (bytes : List UInt8)
  deriving DecidableEq, Repr

/-- What is seen of the events of a server that is up, and what is logged. -/
def run (side : Side) (a : App) : List Event → List Outcome × List LogLine
  | [] => ([], [])
  | .edit e :: rest =>
      let (outcomes, log) := run { side with vantage := side.vantage.apply e } a rest
      (.changed :: outcomes, log)
  | .connection client sent :: rest =>
      let (next, replies) := answer side a client sent
      let (outcomes, log) := run side next rest
      (.received (replies.flatMap (·.message.bytes)) :: outcomes, replies.flatMap (·.log) ++ log)

end Connection
end StaticSite
