import StaticSite.Url.Basic

/-! Requests, and the URL that a request is for: scheme, host and path put together again from
what the server knows of them. -/

namespace StaticSite

/-- The headers of a message in order. -/
abbrev Headers := List (Text × Text)

/-- The first header of a name given in lower case. -/
def Headers.first? (headers : Headers) (name : Text) : Option Text :=
  (headers.find? fun (n, _) => n.asciiLower == name).map (·.2)

/-- The last header of a name given in lower case. -/
def Headers.last? (headers : Headers) (name : Text) : Option Text :=
  first? headers.reverse name

/-- A request as it reaches the site. The target is the part of the request line between the
method and the version, the server is the address at which the request came in, as it is told, and
`rootPath` is where the site as a whole is said to stand. -/
structure Request where
  method : Text
  target : Text
  headers : Headers
  server : Option (Text × Int)
  scheme : Text
  rootPath : Text
  deriving Repr

namespace Request

/-- The path of the request, decoded. -/
def path (r : Request) : Text :=
  r.rootPath ++ Percent.decode (Url.cutAt '?' r.target).1

/-- What follows the first question mark of the target, as it is. -/
def query (r : Request) : Text :=
  (Url.cutAt '?' r.target).2

/-- The port at which requests of a scheme are expected. -/
def defaultPort? (scheme : Text) : Option Int :=
  if scheme = "http".toList ∨ scheme = "ws".toList then some 80
  else if scheme = "https".toList ∨ scheme = "wss".toList then some 443
  else none

/-- The host of a server in a URL: an address with colons stands in brackets. -/
def bracketed (host : Text) : Text :=
  if host.contains ':' ∧ host.head? ≠ some '[' then '[' :: host ++ [']'] else host

/-- The authority under which the request reached the site: what its first Host header names, if
that is a host, or else the server, with the port unless it is the one to be expected. -/
def authority? (r : Request) : Except UrlError (Option Text) :=
  match (r.headers.first? "host".toList).filter Url.isAuthority with
  | some host => .ok (some host)
  | none =>
      match r.server with
      | none => .ok none
      | some (host, port) =>
          match defaultPort? r.scheme with
          | none => .error (.unknownScheme r.scheme)
          | some expected =>
              .ok (some (if port = expected then bracketed host
                else bracketed host ++ ':' :: Text.ofInt port))

/-- A character of a path in a URL: the ones that would end the path are coded. -/
def pathChar (c : Char) : Text :=
  if c = '?' then "%3F".toList
  else if c = '#' then "%23".toList
  else if c = '\\' then "%5C".toList
  else [c]

/-- A path in a URL without authority, where two slashes in front would begin one. -/
def barePath (path : Text) : Text :=
  match path with
  | '/' :: '/' :: rest => "/%2F".toList ++ rest
  | _ => path

/-- The text of the URL for a path under which the request could have been made. -/
def urlText (r : Request) (path : Text) : Except UrlError Text := do
  let shown := path.flatMap pathChar
  match ← r.authority? with
  | none => return barePath shown ++ if r.query = [] then [] else '?' :: r.query
  | some authority => return Url.text ⟨r.scheme, authority, shown, r.query, []⟩

def url (r : Request) : Except UrlError Url := do
  Url.read (← r.urlText r.path)

/-- The path of the request as messages show it, which is the path of its URL. -/
def shownPath (r : Request) : Except UrlError Text :=
  r.url.map (·.path)

end Request
end StaticSite
