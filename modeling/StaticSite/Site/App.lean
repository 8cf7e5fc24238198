import StaticSite.Settings.Basic
import StaticSite.Site.FileResponse
import StaticSite.Site.Log
import StaticSite.Site.Mount

/-! The site: what it answers to each request. A request below the mount is looked up in the
directory of the site; one that is below it but for a slash is redirected; every answer is
logged and carries the time it took. -/

namespace StaticSite

/-- A site that is being served. Once the directory has been found to be there, this is not checked
again. -/
structure App where
  settings : Settings
  mount : Mount
  rootChecked : Bool
  deriving DecidableEq, Repr

/-- What differs between two runs on the same request: the boundary between the parts of a body,
and the time taken, in milliseconds with one place for the log and with three for the header. -/
structure Circumstances where
  boundary : Text
  elapsed : Text
  elapsedExactly : Text
  deriving DecidableEq, Repr

/-- The answer to a request. `raised` is the failure that ended its handling; the answer is complete
unless that happened in the middle of the body. -/
structure Answer where
  response : Response
  complete : Bool
  raised : Option Failure
  log : List LogLine
  deriving DecidableEq, Repr

namespace App

def create (s : Settings) : Except MountError App :=
  (Mount.ofPrefix s.urlPrefix).map fun mount => ⟨s, mount, false⟩

/-- The name of the writer of the site's log lines. -/
def logger : Text := "main".toList

/-- A path below `rootPath`, as seen from there. A path that is not below it stays whole. -/
def routePath (rootPath path : Text) : Text :=
  if rootPath = [] then path
  else match rootPath.isPrefixOf? path with
    | some [] => []
    | some ('/' :: rest) => '/' :: rest
    | _ => path

/-- The path of a file in the directory of the site. `rest` is what follows the mount in `route`,
the path as the mount sees it; the part of the request before `rest` is where the site stands. -/
def filePath (r : Request) (route rest : Text) : Path :=
  let before := route.take (route.length - (rest.length + 1))
  Path.reduce (Path.ofText (routePath (r.rootPath ++ before) r.path))

def notFoundMessage (r : Request) (shown : Text) : Text :=
  "Route ".toList ++ r.method ++ [':'] ++ shown ++ " not found".toList

def notFound (r : Request) : Except Failure Delivery :=
  match r.shownPath with
  | .ok shown => .ok ⟨Response.refusal .notFound [] (notFoundMessage r shown), none⟩
  | .error e => .error (.url e)

/-- A refusal whose message is the phrase of its status. -/
def refuse (status : Status) (first : Headers) : Except Failure Delivery :=
  .ok ⟨Response.refusal status first status.phrase, none⟩

/-- The path to which a request for `path` is redirected if nothing is mounted there: without the
slashes at its end, or with one if it has none. -/
def otherSlash (route path : Text) : Text :=
  if route.endsWith ['/'] then Text.trimEnd (· == '/') path else path ++ ['/']

/-- The answer to a request for a path outside the mount. -/
def outside (a : App) (r : Request) (route : Text) : Except Failure Delivery :=
  if route = ['/'] then notFound r
  else
    let path := otherSlash route r.path
    match a.mount.match? (routePath r.rootPath path) with
    | .error count => .error (.tooManyDigits count)
    | .ok none => notFound r
    | .ok (some _) =>
        match r.urlText path with
        | .ok target => .ok ⟨Response.redirect target, none⟩
        | .error e => .error (.url e)

/-- The redirect from a directory to its path with a slash. -/
def redirectToDirectory (r : Request) : Except Failure Delivery :=
  match r.url with
  | .ok u => .ok ⟨Response.redirect (Url.text { u with path := u.path ++ ['/'] }), none⟩
  | .error e => .error (.url e)

/-- The file that stands for a directory. -/
def indexName : Name := "index.html".toList

/-- The file that is sent where nothing is found. -/
def missingName : Name := "404.html".toList

/-- Whether only the headers of an answer are asked for. -/
def headOnly (r : Request) : Bool :=
  r.method = "HEAD".toList

/-- The answer for a path at which there is nothing to send: a page of the site for this case, if
the site has pages and this one is a file, or else a refusal. -/
def missing (a : App) (v : Vantage) (r : Request) : Except Failure Delivery :=
  if a.settings.htmlIndex then
    match Site.lookup v (Path.ofText a.settings.rootDir) [missingName] with
    | .error e => .error e
    | .ok none => notFound r
    | .ok (some page) =>
        match FileResponse.describe? page with
        | .error e => .error e
        | .ok none => notFound r
        | .ok (some d) => .ok (FileResponse.whole v page.place d (headOnly r) .notFound)
  else notFound r

/-- The answer for a directory: its index, if the site has pages and this one is a file. -/
def directory (a : App) (v : Vantage) (boundary : Text) (r : Request) (p : Path) :
    Except Failure Delivery :=
  if a.settings.htmlIndex then
    match Site.lookup v (Path.ofText a.settings.rootDir) (p ++ [indexName]) with
    | .error e => .error e
    | .ok none => missing a v r
    | .ok (some index) =>
        if index.entry.isFile ∧ !r.path.endsWith ['/'] then redirectToDirectory r
        else match FileResponse.describe? index with
          | .error e => .error e
          | .ok none => missing a v r
          | .ok (some d) =>
              .ok (FileResponse.answer v index.place d (headOnly r) boundary r.headers)
  else missing a v r

/-- The answer for a path in the directory of the site. -/
def content (a : App) (v : Vantage) (boundary : Text) (r : Request) (p : Path) :
    Except Failure Delivery :=
  match Site.lookup v (Path.ofText a.settings.rootDir) p with
  | .error .embeddedNull => notFound r
  | .error (.system e path) =>
      if e.isPermission then refuse .unauthorized []
      else if e = .nameTooLong then notFound r
      else .error (.system e path)
  | .error e => .error e
  | .ok none => missing a v r
  | .ok (some found) =>
      if found.entry.isDirectory then directory a v boundary r p
      else match FileResponse.describe? found with
        | .error e => .error e
        | .ok none => missing a v r
        | .ok (some d) =>
            .ok (FileResponse.answer v found.place d (headOnly r) boundary r.headers)

/-- The methods that a site answers, as a header names them. -/
def allowed : Text := "GET, HEAD".toList

/-- The answer to a request below the mount, once the directory is known to be there. -/
def inside (a : App) (v : Vantage) (boundary : Text) (r : Request) (route rest : Text) :
    Except Failure Delivery :=
  if r.method = "GET".toList ∨ headOnly r then content a v boundary r (filePath r route rest)
  else refuse .methodNotAllowed [("allow".toList, allowed)]

/-- The site after a request and the answer to it, or the failure before one was begun. -/
def respond (a : App) (v : Vantage) (boundary : Text) (r : Request) :
    App × Except Failure Delivery :=
  let route := routePath r.rootPath r.path
  match a.mount.match? route with
  | .error count => (a, .error (.tooManyDigits count))
  | .ok none => (a, outside a r route)
  | .ok (some rest) =>
      if a.rootChecked then (a, inside a v boundary r route rest)
      else match Site.checkRoot v a.settings.rootDir with
        | .error e => (a, .error e)
        | .ok () => ({ a with rootChecked := true }, inside a v boundary r route rest)

def answeredLine (c : Circumstances) (r : Request) (shown : Text) (status : Status) : LogLine :=
  ⟨.info, logger, r.method ++ [' '] ++ shown ++ " -> ".toList ++ Text.ofNat status.code ++
    " (".toList ++ c.elapsed ++ "ms)".toList⟩

/-- The line for a request whose handling failed before it was answered. -/
def failedLine (c : Circumstances) (r : Request) (shown : Text) (e : Failure) : LogLine :=
  ⟨.error, logger, r.method ++ [' '] ++ shown ++ " failed (".toList ++ c.elapsed ++
    "ms): ".toList ++ e.message⟩

def timeHeader (c : Circumstances) : Text × Text :=
  ("x-response-time".toList, c.elapsedExactly)

/-- The answer to a request from what came of it. Each needs the path of the request for its line;
where this cannot be told, the request fails without one. -/
def conclude (c : Circumstances) (r : Request) : Except Failure Delivery → Answer
  | .error e =>
      match r.shownPath with
      | .ok shown => ⟨Response.internalError, true, some e, [failedLine c r shown e]⟩
      | .error u => ⟨Response.internalError, true, some (.url u), []⟩
  | .ok d =>
      match r.shownPath with
      | .ok shown =>
          { response := { d.response with headers := d.response.headers ++ [timeHeader c] }
            complete := d.broken.isNone
            raised := d.broken
            log := [answeredLine c r shown d.response.status] }
      | .error u => ⟨Response.internalError, true, some (.url u), []⟩

/-- The site after a request, and the answer to it. -/
def handle (a : App) (v : Vantage) (c : Circumstances) (r : Request) : App × Answer :=
  let (next, result) := a.respond v c.boundary r
  (next, conclude c r result)

/-! ### Beginning and end, and connections that are no requests -/

def startLine (s : Settings) : LogLine :=
  ⟨.info, logger, "Serving static files from ".toList ++ s.rootDir ++ " at prefix ".toList ++
    s.urlPrefix⟩

def stopLine : LogLine :=
  ⟨.info, logger, "Shutting down static asset server".toList⟩

/-- What is sent to a client that asks for a two-way connection: that it is closed. -/
def socketMessages : List Text := ["websocket.close".toList]

/-- The messages for a client that asks for a two-way connection. There is none anywhere, but its
path is looked at as that of any request. -/
def acceptSocket (a : App) (r : Request) : Except Failure (List Text) :=
  match a.mount.match? (routePath r.rootPath r.path) with
  | .error count => .error (.tooManyDigits count)
  | .ok _ => .ok socketMessages

def title : Text := "Static Asset Server".toList

def version : Text := "1.0.0".toList

/-- The name under which the files are mounted. -/
def mountName : Text := "static".toList

/-- Where the files are mounted. -/
def mountPath (a : App) : Text :=
  Mount.trimmed a.settings.urlPrefix

end App
end StaticSite
