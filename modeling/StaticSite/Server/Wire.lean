import StaticSite.Http.Response
import StaticSite.Text.Blank

/-! Messages on a connection. A request is read from the bytes that a client sends: a line, header
lines, an empty line, and a body of a given length. A response is written as such a message too,
and a client reads it back. Each byte counts as the character of its number. -/

namespace StaticSite.Wire

/-- The text of some bytes, a character for each. -/
def ofBytes (bytes : List UInt8) : Text :=
  bytes.map fun b => Char.ofNat b.toNat

/-- The bytes of a text whose characters are all bytes. -/
def toBytes (t : Text) : List UInt8 :=
  t.map fun c => UInt8.ofNat c.toNat

def lineEnd : Text := "\r\n".toList

/-- A line given in reverse, without the carriage return that may stand at its end. -/
def finishLine (reversed : Text) : Text :=
  match reversed with
  | '\r' :: rest => rest.reverse
  | _ => reversed.reverse

/-- The lines before the first empty one, and what follows it; `line` holds the one begun, in
reverse. Without an empty line the message is not complete. -/
def readLines (line : Text) : Text → Option (List Text × Text)
  | [] => none
  | c :: rest =>
      if c = '\n' then
        match finishLine line with
        | [] => some ([], rest)
        | whole => (readLines [] rest).map fun (lines, after) => (whole :: lines, after)
      else readLines (c :: line) rest

/-- Whether a character may stand in a method or in the name of a header. -/
def isTokenChar (c : Char) : Bool :=
  c.isAlphanum || "!#$%&'*+-.^_`|~".toList.contains c

def isVisible (c : Char) : Bool :=
  0x21 ≤ c.toNat && c.toNat ≤ 0x7e

/-- Whether a character is a blank inside a line. -/
def isLineBlank (c : Char) : Bool :=
  c == ' ' || c == '\t'

/-- The characters that may not stand in the value of a header. -/
def forbidden : Text := "\x00\x7f\n\r\x0b\x0c".toList

/-- Whether a character may stand in the value of a header. -/
def isValueChar (c : Char) : Bool :=
  !forbidden.contains c

/-- Whether a text is not empty and made of such characters only. -/
def isRun (allowed : Char → Bool) (t : Text) : Bool :=
  !t.isEmpty && t.all allowed

/-- The beginning of a request: its line and its headers. The version is the digit after the
point, all versions before 1.1 being of one kind. -/
structure Head where
  method : Text
  target : Text
  atLeastOneOne : Bool
  headers : Headers
  deriving DecidableEq, Repr

/-- Whether a version written as two digits is 1.1 or later, if it is one. -/
def readVersion? (t : Text) : Option Bool :=
  match "HTTP/".toList.isPrefixOf? t with
  | some [major, '.', minor] =>
      if Text.isDigit major ∧ Text.isDigit minor then
        some ('1' < major || (major == '1' && '1' ≤ minor))
      else none
  | _ => none

/-- The method, the target and the version of a request line. -/
def readRequestLine? (line : Text) : Option (Text × Text × Bool) :=
  match Text.splitOn ' ' line with
  | [method, target, version] =>
      if isRun isTokenChar method ∧ isRun isVisible target then
        (readVersion? version).map fun v => (method, target, v)
      else none
  | _ => none

/-- Whether a line goes on with the one before it. -/
def goesOn (line : Text) : Bool :=
  match line with
  | c :: _ => isLineBlank c
  | [] => false

/-- Header lines, those that go on with the one before joined to it by a space; `current` is the one
that is being joined. -/
def joinLinesAfter (current : Text) : List Text → List Text
  | [] => [current]
  | line :: rest =>
      if goesOn line then joinLinesAfter (current ++ ' ' :: line.dropWhile isLineBlank) rest
      else current :: joinLinesAfter line rest

/-- Header lines, those that go on with the one before joined to it. The first cannot do so. -/
def joinLines? : List Text → Option (List Text)
  | [] => some []
  | line :: rest => if goesOn line then none else some (joinLinesAfter line rest)

/-- The name, in lower case, and the value of a header line. -/
def readHeader? (line : Text) : Option (Text × Text) :=
  match Text.cutFirst? ':' line with
  | some (name, value) =>
      let value := value.trim isLineBlank
      if isRun isTokenChar name ∧ value.all isValueChar then some (name.asciiLower, value) else none
  | none => none

/-- Whether the headers name the host as often as they have to: once in newer versions, at most
once in older ones. -/
def hasHost (atLeastOneOne : Bool) (headers : Headers) : Bool :=
  let count := headers.countP fun (name, _) => name == "host".toList
  count == 1 || (count == 0 && !atLeastOneOne)

/-- The beginning of a request from its lines. -/
def readHead? : List Text → Option Head
  | [] => none
  | line :: rest => do
      let (method, target, atLeastOneOne) ← readRequestLine? line
      let headers ← (← joinLines? rest).mapM readHeader?
      if hasHost atLeastOneOne headers then some ⟨method, target, atLeastOneOne, headers⟩ else none

/-- Whether a list of words in headers of one name holds a word. -/
def listHolds (headers : Headers) (name word : Text) : Bool :=
  headers.any fun (n, value) =>
    n == name && (Text.splitOn ',' value).any fun w => (w.trim isLineBlank).asciiLower == word

/-- Whether the connection stays open after the response. -/
def Head.keepsOpen (h : Head) : Bool :=
  h.atLeastOneOne && !listHolds h.headers "connection".toList "close".toList

/-- The length of the body of a request, which is empty unless a header says otherwise. -/
def Head.bodyLength? (h : Head) : Option Nat :=
  if (h.headers.first? "transfer-encoding".toList).isSome then none
  else match h.headers.first? "content-length".toList with
    | none => some 0
    | some digits =>
        if isRun Text.isDigit digits ∧ digits.length ≤ 20 then some (Text.natOfDigits digits)
        else none

/-- The addresses of the clients that may tell by which scheme a request was made, since they may
stand in for others. -/
def trustedClients : List Text := ["127.0.0.1".toList]

/-- The header by which such a client tells the scheme. -/
def schemeHeader : Text := "x-forwarded-proto".toList

/-- The schemes that may be told. -/
def schemes : List Text := ["http", "https", "ws", "wss"].map String.toList

/-- The scheme of a request from a client. -/
def Head.scheme (h : Head) (client : Text) : Text :=
  match (h.headers.last? schemeHeader).map Text.strip with
  | some told =>
      if trustedClients.contains client ∧ schemes.contains told then told else "http".toList
  | none => "http".toList

/-- The request of a client as the site gets it, at the address and the port of the listener. -/
def Head.request (h : Head) (client host : Text) (port : Nat) : Request :=
  { method := h.method
    target := h.target
    headers := h.headers
    server := some (host, port)
    scheme := h.scheme client
    rootPath := [] }

/-! ### Writing -/

/-- A message as it is seen on the wire: its first line, its headers and its body. -/
structure Message where
  line : Text
  headers : Headers
  body : List UInt8
  deriving DecidableEq, Repr

def headerText (h : Text × Text) : Text :=
  h.1 ++ ": ".toList ++ h.2 ++ lineEnd

def Message.bytes (m : Message) : List UInt8 :=
  toBytes (m.line ++ lineEnd ++ m.headers.flatMap headerText ++ lineEnd) ++ m.body

def statusLine (s : Status) : Text :=
  "HTTP/1.1 ".toList ++ Text.ofNat s.code ++ [' '] ++ s.phrase

/-- The header that tells the kind of the server. -/
def serverHeader : Text × Text := ("server".toList, "uvicorn".toList)

/-- The header that tells that the connection ends with the response. -/
def closeHeader : Text × Text := ("Connection".toList, "close".toList)

/-- A response of the site as it is sent. The response to a request for headers alone has no
body. -/
def ofResponse (keepsOpen headOnly : Bool) (r : Response) : Message :=
  { line := statusLine r.status
    headers := serverHeader :: r.headers ++ (if keepsOpen then [] else [closeHeader])
    body := if headOnly then [] else r.body }

def badRequest : Message :=
  { line := statusLine .badRequest
    headers :=
      [("content-type".toList, "text/plain; charset=utf-8".toList),
        ("connection".toList, "close".toList)]
    body := toBytes "Invalid HTTP request received.".toList }

/-! ### The client's side -/

def requestLine (method target : Text) : Text :=
  method ++ [' '] ++ target ++ " HTTP/1.1".toList

/-- The bytes with which a client asks for a target: the host first, its own headers, and last that
the connection may end. -/
def ask (method target : Text) (headers : Headers) : List UInt8 :=
  Message.bytes
    { line := requestLine method target
      headers := ("Host".toList, "testserver".toList) :: headers ++ [closeHeader]
      body := [] }

/-- A header line as a client reads it. -/
def readReceived? (line : Text) : Option (Text × Text) :=
  (Text.cutFirst? ':' line).map fun (name, value) => (name, value.trim isLineBlank)

/-- The response that a client reads from what it has received, and the rest. The body is as long
as a header says, if as much has come; else it is all that has come. -/
def receive? (headOnly : Bool) (t : Text) : Option (Message × Text) :=
  match readLines [] t with
  | some (line :: lines, rest) =>
      (lines.mapM readReceived?).map fun headers =>
        let length :=
          if headOnly ∨ line = statusLine .notModified then 0
          else match headers.first? "content-length".toList with
            | some digits => Text.natOfDigits digits
            | none => rest.length
        (⟨line, headers, toBytes (rest.take length)⟩, rest.drop length)
  | _ => none

end StaticSite.Wire
