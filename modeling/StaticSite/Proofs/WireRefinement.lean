import StaticSite.Proofs.Arrival
import StaticSite.Proofs.Asking
import StaticSite.Proofs.Framing
import StaticSite.Server.Connection
import StaticSite.Site.History

/-! A server that is up, seen by its clients. What they receive is what the site alone would answer
to the same requests on the same tree, one after another: the server adds to the headers what belongs
to the connection, and leaves out the body where only headers are asked for. -/

namespace StaticSite

/-! ### Answers at another time -/

namespace Wire

/-- The headers that a connection adds, and the one that tells the time taken. -/
def passingNames : List Text :=
  ["server", "date", "connection", "x-response-time"].map String.toList

/-- The headers of a response without those that belong to the connection or to the time. -/
def lasting (headers : Headers) : Headers :=
  headers.filter fun (name, _) => !passingNames.contains name.asciiLower

theorem lasting_append_passing (headers : Headers) {name value : Text}
    (h : name.asciiLower ∈ passingNames) : lasting (headers ++ [(name, value)]) = lasting headers := by
  rw [lasting, List.filter_append, List.filter_cons_of_neg (by simpa using h), List.filter_nil,
    List.append_nil]
  rfl

/-- What a connection adds does not last. -/
theorem lasting_ofResponse (keepsOpen headOnly : Bool) (r : Response) :
    lasting (ofResponse keepsOpen headOnly r).headers = lasting r.headers := by
  have hserver : lasting (serverHeader :: r.headers) = lasting r.headers := by
    rw [lasting, List.filter_cons_of_neg (by decide)]
    rfl
  cases keepsOpen with
  | true => exact (congrArg lasting (List.append_nil _)).trans hserver
  | false => exact (lasting_append_passing _ (by decide)).trans hserver

end Wire

open Wire

/-- Answers that differ at most in the time taken and in the log. -/
structure Answer.Alike (x y : Answer) : Prop where
  status : x.response.status = y.response.status
  headers : lasting x.response.headers = lasting y.response.headers
  body : x.response.body = y.response.body
  complete : x.complete = y.complete
  raised : x.raised = y.raised

namespace App

theorem conclude_alike (c c' : Circumstances) (r : Request) (result : Except Failure Delivery) :
    (conclude c r result).Alike (conclude c' r result) := by
  unfold conclude
  cases result with
  | error e =>
      cases r.shownPath with
      | ok shown => exact ⟨rfl, rfl, rfl, rfl, rfl⟩
      | error u => exact ⟨rfl, rfl, rfl, rfl, rfl⟩
  | ok d =>
      cases r.shownPath with
      | ok shown =>
          have htime : ∀ c : Circumstances,
              lasting (d.response.headers ++ [timeHeader c]) = lasting d.response.headers :=
            fun c => lasting_append_passing _ (by decide)
          exact ⟨rfl, (htime c).trans (htime c').symm, rfl, rfl, rfl⟩
      | error u => exact ⟨rfl, rfl, rfl, rfl, rfl⟩

/-- A failure before the response began is answered as an internal error. -/
theorem conclude_internalError {c : Circumstances} {r : Request} {result : Except Failure Delivery}
    (hraised : (conclude c r result).raised ≠ none)
    (hcomplete : (conclude c r result).complete = true) :
    (conclude c r result).response = Response.internalError := by
  unfold conclude at *
  cases result with
  | error e => cases r.shownPath <;> rfl
  | ok d =>
      cases hshown : r.shownPath with
      | ok shown =>
          rw [hshown] at hraised hcomplete
          exact absurd (Option.isNone_iff_eq_none.mp hcomplete) hraised
      | error u => rfl

variable (a : App) (v : Vantage) {c c' : Circumstances} (r : Request)

theorem handle_alike (h : c'.boundary = c.boundary) :
    (a.handle v c r).1 = (a.handle v c' r).1 ∧ (a.handle v c r).2.Alike (a.handle v c' r).2 := by
  rw [handle, handle, h]
  exact ⟨rfl, conclude_alike c c' r _⟩

end App

/-! ### One connection -/

namespace Wire

namespace Question

/-- The request of a question of some client as it reaches a site. -/
def request (q : Question) (client : Text) (server : Option (Text × Int)) : Request :=
  { method := q.method
    target := q.target
    headers := q.received
    server
    scheme := q.scheme client
    rootPath := [] }

/-- Whether a question asks for headers alone. -/
def headOnly (q : Question) : Bool :=
  q.method = "HEAD".toList

/-- What a client receives shows an answer of the site: one response and nothing else, of the same
status, with the same headers but for those that do not last, and with the same body unless only
headers were asked for. Where the handling failed before the response began, this is an internal
error. -/
structure Shows (q : Question) (received : List UInt8) (answer : Answer) : Prop where
  read : ∃ m, receive? q.headOnly (ofBytes received) = some (m, []) ∧
    m.line = statusLine answer.response.status ∧
    lasting m.headers = lasting answer.response.headers ∧
    m.body = if q.headOnly then [] else answer.response.body
  internal : answer.raised ≠ none → answer.complete = true →
    answer.response = Response.internalError

variable {q : Question} (client : Text)

theorem namesHost_request (q : Question) (server : Option (Text × Int)) :
    (q.request client server).NamesHost :=
  ⟨"testserver".toList, received_host q, by decide⟩

/-- The answer to a question is the same wherever it arrives. -/
theorem handle_request (q : Question) (a : App) (v : Vantage) (c : Circumstances)
    (server server' : Option (Text × Int)) :
    a.handle v c (q.request client server) = a.handle v c (q.request client server') :=
  a.handle_arrivedAt v server (q.namesHost_request client server') c

/-- A connection with a question on it comes to one reply, which is what the site answers. -/
theorem Proper.answer_eq (h : q.Proper) (side : Connection.Side) (a : App) {next : App}
    {answer : Answer}
    (hhandle : a.handle side.vantage side.circumstances
      (q.request client (some (side.host, side.port))) = (next, answer)) :
    Connection.answer side a client q.bytes =
      (next, [⟨ofResponse false q.headOnly answer.response, answer.log⟩]) := by
  have hbytes : q.bytes ≠ [] := by
    intro hnil
    have hread := h.readLines_eq
    rw [hnil] at hread
    cases hread
  -- As many requests are answered as there are bytes, hence this one.
  obtain ⟨count, hcount⟩ := Nat.exists_eq_succ_of_ne_zero (mt List.eq_nil_of_length_eq_zero hbytes)
  have hrequest : q.head.request client side.host side.port =
      q.request client (some (side.host, side.port)) := by
    rw [Head.request, scheme_head]
    rfl
  have hhead : App.headOnly (q.request client (some (side.host, side.port))) = q.headOnly := rfl
  rw [Connection.answer, hcount, Connection.answerWithin, h.readLines_eq]
  simp only [h.readHead?_eq, h.bodyLength?_eq, hrequest, hhandle, hhead, keepsOpen_eq, Bool.false_and]
  rfl

/-- What is received on such a connection shows what the site answers at the same place or another,
in the same time or another. -/
theorem shows_handle (q : Question) (a : App) (v : Vantage) {c c' : Circumstances} (hc : c.Visible)
    (hboundary : c'.boundary = c.boundary) (server server' : Option (Text × Int)) :
    q.Shows (ofResponse false q.headOnly (a.handle v c (q.request client server)).2.response).bytes
      (a.handle v c' (q.request client server')).2 := by
  obtain ⟨-, halike⟩ := a.handle_alike v (q.request client server) hboundary
  rw [q.handle_request client a v c' server server'] at halike
  have hframed := a.framed_handle v hc (q.request client server)
  constructor
  · refine ⟨_, receive?_bytes hframed false q.headOnly, ?_, ?_, ?_⟩
    · exact congrArg statusLine halike.status
    · exact (lasting_ofResponse _ _ _).trans halike.headers
    · rw [← halike.body]
      rfl
  · intro hraised hcomplete
    rw [App.handle_snd] at hraised hcomplete ⊢
    exact App.conclude_internalError hraised hcomplete

end Question

/-! ### Runs -/

/-- What happens in the course of time: the tree is changed, or a client at some address asks. -/
inductive Step where
  | edit (e : Edit)
  | ask (client : Text) (q : Question)

namespace Step

/-- A step as it happens to a server. -/
def event : Step → Connection.Event
  | edit e => .edit e
  | ask client q => .connection client q.bytes

/-- A step as it happens to a site alone, at some address. -/
def ofSite (server : Option (Text × Int)) : Step → App.Step
  | edit e => .edit e
  | ask client q => .request (q.request client server)

end Step

/-- What is seen of a server agrees with what is seen of a site, step by step. -/
inductive Agree : List Step → List Connection.Outcome → List App.Outcome → Prop
  | nil : Agree [] [] []
  | edit (e : Edit) {steps : List Step} {seen : List Connection.Outcome} {answered : List App.Outcome}
      (rest : Agree steps seen answered) :
      Agree (.edit e :: steps) (.changed :: seen) (.changed :: answered)
  | ask (client : Text) {q : Question} {received : List UInt8} {answer : Answer}
      (h : q.Shows received answer) {steps : List Step} {seen : List Connection.Outcome}
      {answered : List App.Outcome} (rest : Agree steps seen answered) :
      Agree (.ask client q :: steps) (.received received :: seen) (.answered answer :: answered)

/-- A server and a site that begin alike agree all along: each step leaves both with the same tree
and the same site. -/
theorem agree_run {steps : List Step} (hproper : ∀ client q, .ask client q ∈ steps → q.Proper)
    {c c' : Circumstances} (hc : c.Visible) (hboundary : c'.boundary = c.boundary) (host : Text)
    (port : Nat) (server : Option (Text × Int)) (a : App) (v : Vantage) (begun : Bool) :
    Agree steps (Connection.run ⟨v, c, host, port⟩ a (steps.map Step.event)).1
      (App.run c' ⟨v, a, begun⟩ (steps.map (Step.ofSite server))) := by
  induction steps generalizing a v with
  | nil => exact .nil
  | cons step rest ih =>
      have hrest := ih fun client q hq => hproper client q (List.mem_cons_of_mem _ hq)
      cases step with
      | edit e => exact .edit e (hrest a (v.apply e))
      | ask client q =>
          have hq := hproper client q List.mem_cons_self
          have hanswer := hq.answer_eq client ⟨v, c, host, port⟩ a rfl
          -- The site that a request leaves behind knows neither the time nor the place.
          obtain ⟨hnext, -⟩ :=
            a.handle_alike v (q.request client (some (host, (port : Int)))) hboundary
          rw [q.handle_request client a v c' _ server] at hnext
          have hshows := q.shows_handle client a v hc hboundary (some (host, (port : Int))) server
          simp only [List.map_cons, Step.event, Step.ofSite, Connection.run, App.run, App.step, hanswer]
          rw [List.flatMap_singleton, ← hnext]
          exact .ask client hshows (hrest _ v)

end Wire

/-! ### A server that is up -/

namespace Server

/-- What is seen of a server that is up on its port, at some address. One that is not up serves
nothing. -/
def Launch.serve (l : Launch) (v : Vantage) (c : Circumstances) (host : Text)
    (events : List Connection.Event) : Option (List Connection.Outcome) :=
  match l.progress, l.server.port with
  | .up, some port => some (Connection.run ⟨v, c, host, port⟩ l.server.app events).1
  | _, _ => none

/-- A server that has come up is as it was made, but that it has a port and serves. -/
theorem server_of_up {server : Server} {v : Vantage} {n : Network}
    (h : (server.launch v n).progress = .up) :
    ∃ port, (server.launch v n).server = { server with port := some port, serving := true } := by
  rw [launch, launchWith] at *
  cases hcheck : server.settings.check v with
  | error e =>
      rw [hcheck] at h
      cases e <;> cases h
  | ok _ =>
      cases hlisten : (n.listen server.settings.host server.settings.port).result with
      | error e =>
          rw [hcheck, hlisten] at h
          cases e <;> cases h
      | ok socket =>
          simp only [hcheck, hlisten, serveOn] at h ⊢
          cases hlevel : Level.checkServer server.settings.logLevel with
          | error name =>
              rw [hlevel] at h
              cases h
          | ok _ => exact ⟨socket.port, rfl⟩

/-- The site of a server is the site of its settings. -/
theorem create_app {s : Settings} {server : Server} (h : Server.create s = .ok server) :
    App.create s = .ok server.app := by
  rw [create] at h
  cases happ : App.create s with
  | error e =>
      rw [happ] at h
      cases h
  | ok a =>
      rw [happ] at h
      cases h
      rfl

/-- What clients receive from a server that is up is what the site of its settings answers to the
same steps, from its beginning on. -/
theorem serve_agrees {s : Settings} {server : Server} {v : Vantage} {n : Network}
    (hcreate : Server.create s = .ok server) (hup : (server.launch v n).progress = .up)
    {steps : List Wire.Step} (hproper : ∀ client q, .ask client q ∈ steps → q.Proper)
    {c c' : Circumstances} (hc : c.Visible) (hboundary : c'.boundary = c.boundary) (host : Text)
    (address : Option (Text × Int)) :
    ∃ a seen, App.create s = .ok a ∧
      (server.launch v n).serve v c host (steps.map Wire.Step.event) = some seen ∧
      Wire.Agree steps seen (App.run c' ⟨v, a, false⟩ (steps.map (Wire.Step.ofSite address))) := by
  obtain ⟨port, hserver⟩ := server_of_up hup
  have hagree := Wire.agree_run hproper hc hboundary host port address server.app v false
  refine ⟨server.app, _, create_app hcreate, ?_, hagree⟩
  simp only [Launch.serve, hup, hserver]

end Server

/-! ### A server with a page that changes -/

namespace ChangingPage

def settings : Settings :=
  Settings.standard "pub".toList

def vantage : Vantage :=
  ⟨⟨[(["pub".toList], ⟨.directory, 0o755⟩),
    (["pub".toList, App.indexName], ⟨.file (Utf8.encode "hello".toList) 0, 0o644⟩)]⟩, .superuser, []⟩

def network : Network :=
  ⟨fun _ => true, [], 32768, [], true⟩

def server : Server :=
  ⟨settings, ⟨settings, ⟨[]⟩, false⟩, none, false⟩

def circumstances (elapsed : Text) : Circumstances :=
  ⟨"ab".toList, elapsed, elapsed⟩

/-- Where the server runs; clients there may tell the scheme. -/
def home : Text := "127.0.0.1".toList

/-- The page is asked for, as it were by a request that was handed on, is changed, and is asked for
again from elsewhere, first its headers alone. -/
def steps : List Wire.Step :=
  [.ask home ⟨"GET".toList, "/".toList, [("X-Forwarded-Proto".toList, "wss".toList)]⟩,
    .edit (.write ["pub".toList, App.indexName] (Utf8.encode "bye".toList) 0),
    .ask "10.0.0.2".toList ⟨"HEAD".toList, "/".toList, []⟩,
    .ask home ⟨"GET".toList, "/".toList, []⟩]

theorem proper_of_mem {client : Text} {q : Wire.Question} (h : .ask client q ∈ steps) :
    q.Proper := by
  simp only [steps, List.mem_cons, Wire.Step.ask.injEq, reduceCtorEq, false_or, List.not_mem_nil,
    or_false] at h
  have hown : Wire.AreHeaders [("X-Forwarded-Proto".toList, "wss".toList)] :=
    Wire.areHeaders_nil.cons (by decide) (by decide)
  rcases h with ⟨-, rfl⟩ | ⟨-, rfl⟩ | ⟨-, rfl⟩
  · exact ⟨by decide, by decide, hown, by decide⟩
  · exact ⟨by decide, by decide, Wire.areHeaders_nil, nofun⟩
  · exact ⟨by decide, by decide, Wire.areHeaders_nil, nofun⟩

/-- The page is served from a tree that changes, as the site alone would. -/
theorem serve_agrees_steps :
    ∃ a seen, App.create settings = .ok a ∧
      (server.launch vantage network).serve vantage (circumstances ['1']) home
        (steps.map Wire.Step.event) = some seen ∧
      Wire.Agree steps seen
        (App.run (circumstances ['2']) ⟨vantage, a, false⟩ (steps.map (Wire.Step.ofSite none))) := by
  have hcreate : Server.create settings = .ok server := by decide +kernel
  have hup : (server.launch vantage network).progress = .up := by decide +kernel
  have hvisible : (circumstances ['1']).Visible := ⟨by decide, by decide⟩
  have hboundary : (circumstances ['2']).boundary = (circumstances ['1']).boundary := rfl
  exact Server.serve_agrees hcreate hup (fun _ _ => proper_of_mem) hvisible hboundary home none

/-! ### A scheme that is told -/

/-- The tree with a directory besides. -/
def vantageWithDocs : Vantage :=
  vantage.apply (.makeDirectory ["pub".toList, "docs".toList])
    |>.apply (.write ["pub".toList, "docs".toList, App.indexName] [] 0)

/-- The directory is asked for by a request that is said to have been made by another scheme. -/
def forwarded : Wire.Question :=
  ⟨"GET".toList, "/docs".toList, [("X-Forwarded-Proto".toList, "https".toList)]⟩

/-- The same question as it would reach a site by the scheme of the connection. -/
def unforwarded : Request :=
  { forwarded.request home none with scheme := "http".toList }

/-- What is received: a redirect by the scheme that was told. -/
def redirect : Wire.Message where
  line := "HTTP/1.1 307 Temporary Redirect".toList
  headers :=
    [("server", "uvicorn"), ("content-length", "0"), ("location", "https://testserver/docs/"),
      ("x-response-time", "1"), ("Connection", "close")].map fun h => (h.1.toList, h.2.toList)
  body := []

/-- Where a scheme is told, a server does not agree with a site that gets all by that of the
connection. -/
theorem not_agrees_forwarded :
    App.create settings = .ok server.app ∧
      (server.launch vantageWithDocs network).progress = .up ∧ forwarded.Proper ∧
      (server.launch vantageWithDocs network).serve vantageWithDocs (circumstances ['1']) home
        [.connection home forwarded.bytes] = some [.received redirect.bytes] ∧
      ¬ Wire.Agree [.ask home forwarded] [.received redirect.bytes]
        (App.run (circumstances ['2']) ⟨vantageWithDocs, server.app, false⟩
          [.request unforwarded]) := by
  have hown : Wire.AreHeaders [("X-Forwarded-Proto".toList, "https".toList)] :=
    Wire.areHeaders_nil.cons (by decide) (by decide)
  refine ⟨by decide +kernel, by decide +kernel, ⟨by decide, by decide, hown, by decide⟩,
    by decide +kernel, ?_⟩
  rintro (_ | _ | ⟨-, hshows, -⟩)
  obtain ⟨m, hread, -, hheaders, -⟩ := hshows.read
  have hredirect : Wire.receive? forwarded.headOnly (Wire.ofBytes redirect.bytes) =
      some (redirect, []) := by
    decide +kernel
  rw [hredirect] at hread
  cases hread
  exact absurd hheaders (by decide +kernel)

end ChangingPage

end StaticSite
