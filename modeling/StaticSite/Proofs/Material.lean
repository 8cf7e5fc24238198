import StaticSite.Site.App

/-! What the answer to a request is made of. Routing, the check of the directory and the look-ups
settle it before any file is opened: either the answer is fixed, or it is made from one regular file,
which is the one asked for, an index or the page for what is missing. -/

namespace StaticSite

/-- A regular file that an answer is made from: the path by which it was looked up, the place that
was found for it, what it holds, and whether it is the page for what is missing. -/
structure Source where
  path : Path
  place : Location
  content : List UInt8
  modified : Int
  isPage : Bool
  deriving DecidableEq

instance decidableEqExcept {ε α : Type} [DecidableEq ε] [DecidableEq α] : DecidableEq (Except ε α)
  | .error e, .error e' => decidable_of_iff (e = e') ⟨congrArg _, Except.error.inj⟩
  | .ok a, .ok a' => decidable_of_iff (a = a') ⟨congrArg _, Except.ok.inj⟩
  | .error _, .ok _ => isFalse (by intro h; cases h)
  | .ok _, .error _ => isFalse (by intro h; cases h)

deriving instance DecidableEq for Delivery

/-- What an answer is made of. -/
inductive Material where
  | fixed (result : Except Failure Delivery)
  | file (source : Source)
  deriving DecidableEq

namespace Material

/-- What is made of something that was found: a regular file is sent. -/
def ofFound (path : Path) (found : Found) (isPage : Bool) (otherwise : Material) : Material :=
  match found.entry.node with
  | .file content modified => .file ⟨path, found.place, content, modified, isPage⟩
  | _ => otherwise

/-- The description of a file, or the failure where its time cannot be named. -/
def describe (s : Source) : Except Failure FileResponse.Description :=
  ((Validator.ofFile s.modified s.content.length).mapError Failure.yearOutOfRange).map
    fun validator =>
      ⟨ContentType.header (s.place.getLast?.getD []), s.content.length, validator⟩

/-- The result that comes of some material. -/
def result (v : Vantage) (boundary : Text) (r : Request) : Material → Except Failure Delivery
  | fixed result => result
  | file s => (describe s).map fun d =>
      if s.isPage then FileResponse.whole v s.place d (App.headOnly r) .notFound
      else FileResponse.answer v s.place d (App.headOnly r) boundary r.headers

theorem result_ofFound (v : Vantage) (boundary : Text) (r : Request) (path : Path) (found : Found)
    (isPage : Bool) (otherwise : Material) :
    (ofFound path found isPage otherwise).result v boundary r =
      match FileResponse.describe? found with
      | .error e => .error e
      | .ok none => otherwise.result v boundary r
      | .ok (some d) =>
          .ok (if isPage then FileResponse.whole v found.place d (App.headOnly r) .notFound
            else FileResponse.answer v found.place d (App.headOnly r) boundary r.headers) := by
  obtain ⟨place, ⟨node, mode⟩⟩ := found
  cases node with
  | file content modified =>
      simp only [ofFound, result, describe, FileResponse.describe?]
      generalize Validator.ofFile modified content.length = validator
      cases validator with
      | error year => rfl
      | ok validator => rfl
  | directory => rfl
  | link target => rfl
  | pipe => rfl

end Material

namespace App

variable (a : App) (v : Vantage)

/-- The path of the directory of a site. -/
def rootPath : Path :=
  Path.ofText a.settings.rootDir

/-- What is made of a path at which there is nothing to send. -/
def missingMaterial (r : Request) : Material :=
  if a.settings.htmlIndex then
    match Site.lookup v a.rootPath [missingName] with
    | .error e => .fixed (.error e)
    | .ok none => .fixed (notFound r)
    | .ok (some page) => .ofFound [missingName] page true (.fixed (notFound r))
  else .fixed (notFound r)

/-- What is made of a directory. -/
def directoryMaterial (r : Request) (p : Path) : Material :=
  if a.settings.htmlIndex then
    match Site.lookup v a.rootPath (p ++ [indexName]) with
    | .error e => .fixed (.error e)
    | .ok none => a.missingMaterial v r
    | .ok (some index) =>
        if index.entry.isFile ∧ !r.path.endsWith ['/'] then .fixed (redirectToDirectory r)
        else .ofFound (p ++ [indexName]) index false (a.missingMaterial v r)
  else a.missingMaterial v r

/-- What is made of a path in the directory of the site. -/
def contentMaterial (r : Request) (p : Path) : Material :=
  match Site.lookup v a.rootPath p with
  | .error .embeddedNull => .fixed (notFound r)
  | .error (.system e path) =>
      if e.isPermission then .fixed (refuse .unauthorized [])
      else if e = .nameTooLong then .fixed (notFound r)
      else .fixed (.error (.system e path))
  | .error e => .fixed (.error e)
  | .ok none => a.missingMaterial v r
  | .ok (some found) =>
      if found.entry.isDirectory then a.directoryMaterial v r p
      else .ofFound p found false (a.missingMaterial v r)

/-- What is made of a request below the mount, once the directory is known to be there. -/
def insideMaterial (r : Request) (route rest : Text) : Material :=
  if r.method = "GET".toList ∨ headOnly r then a.contentMaterial v r (filePath r route rest)
  else .fixed (refuse .methodNotAllowed [("allow".toList, allowed)])

/-- What is made of a request. -/
def material (r : Request) : Material :=
  match a.mount.match? (routePath r.rootPath r.path) with
  | .error count => .fixed (.error (.tooManyDigits count))
  | .ok none => .fixed (outside a r (routePath r.rootPath r.path))
  | .ok (some rest) =>
      if a.rootChecked then a.insideMaterial v r (routePath r.rootPath r.path) rest
      else match Site.checkRoot v a.settings.rootDir with
        | .error e => .fixed (.error e)
        | .ok () => a.insideMaterial v r (routePath r.rootPath r.path) rest

variable (boundary : Text) (r : Request)

theorem missing_eq : missing a v r = (a.missingMaterial v r).result v boundary r := by
  simp only [missing, missingMaterial, rootPath]
  split
  · cases Site.lookup v (Path.ofText a.settings.rootDir) [missingName] with
    | error e => rfl
    | ok found =>
        cases found with
        | none => rfl
        | some page =>
            simp only [Material.result_ofFound]
            cases FileResponse.describe? page with
            | error e => rfl
            | ok d => cases d <;> rfl
  · rfl

theorem directory_eq (p : Path) :
    directory a v boundary r p = (a.directoryMaterial v r p).result v boundary r := by
  simp only [directory, directoryMaterial, rootPath, missing_eq a v boundary r]
  split
  · cases Site.lookup v (Path.ofText a.settings.rootDir) (p ++ [indexName]) with
    | error e => rfl
    | ok found =>
        cases found with
        | none => rfl
        | some index =>
            simp only
            split
            · rfl
            · simp only [Material.result_ofFound]
              cases FileResponse.describe? index with
              | error e => rfl
              | ok d => cases d <;> rfl
  · rfl

theorem content_eq (p : Path) :
    content a v boundary r p = (a.contentMaterial v r p).result v boundary r := by
  simp only [content, contentMaterial, missing_eq a v boundary r, directory_eq, rootPath]
  cases Site.lookup v (Path.ofText a.settings.rootDir) p with
  | error e =>
      cases e with
      | system e path =>
          simp only
          split
          · rfl
          · split <;> rfl
      | _ => rfl
  | ok found =>
      cases found with
      | none => rfl
      | some found =>
          simp only
          split
          · rfl
          · simp only [Material.result_ofFound]
            cases FileResponse.describe? found with
            | error e => rfl
            | ok d => cases d <;> rfl

theorem inside_eq (route rest : Text) :
    inside a v boundary r route rest = (a.insideMaterial v r route rest).result v boundary r := by
  simp only [inside, insideMaterial, content_eq]
  split <;> rfl

/-- The answer to a request is what comes of its material. -/
theorem respond_snd : (a.respond v boundary r).2 = (a.material v r).result v boundary r := by
  simp only [respond, material, inside_eq]
  cases a.mount.match? (routePath r.rootPath r.path) with
  | error count => rfl
  | ok found =>
      cases found with
      | none => rfl
      | some rest =>
          simp only
          split
          · rfl
          · cases Site.checkRoot v a.settings.rootDir <;> rfl

theorem handle_snd (c : Circumstances) :
    (a.handle v c r).2 = conclude c r ((a.material v r).result v c.boundary r) := by
  rw [← respond_snd]
  rfl

variable {r}

/-- A request whose path cannot be told fails, whatever came of it. -/
theorem conclude_of_error {u : UrlError} (hshown : r.shownPath = .error u) (c : Circumstances)
    (result : Except Failure Delivery) :
    conclude c r result = ⟨Response.internalError, true, some (.url u), []⟩ := by
  cases result <;> simp only [conclude, hshown]

theorem conclude_of_ok {shown : Text} (hshown : r.shownPath = .ok shown) (c : Circumstances)
    (d : Delivery) :
    conclude c r (.ok d) =
      ⟨{ d.response with headers := d.response.headers ++ [timeHeader c] }, d.broken.isNone, d.broken,
        [answeredLine c r shown d.response.status]⟩ := by
  simp only [conclude, hshown]

end App

/-! ### What breaks a response off -/

namespace FileResponse

variable {v : Vantage} {place : Location} {headOnly : Bool} {e : Failure}

/-- What breaks a response off is that the file could not be read. -/
theorem deliver_broken {status : Status} {headers : Headers} {body : List UInt8 → List UInt8}
    (h : (deliver v place headOnly status headers body).broken = some e) :
    ∃ e', e = PathError.failure e' (Location.text place) := by
  unfold deliver at h
  split at h
  · cases h
  · split at h
    · cases h
    · cases h
      exact ⟨_, rfl⟩

theorem answer_broken {d : Description} {boundary : Text} {request : Headers}
    (h : (answer v place d headOnly boundary request).broken = some e) :
    ∃ e', e = PathError.failure e' (Location.text place) := by
  unfold answer at h
  split at h
  · cases h
  split at h
  · exact deliver_broken h
  · split at h
    · split at h
      · unfold parts at h
        split at h <;> exact deliver_broken h
      · cases h
    · exact deliver_broken h

end FileResponse

/-! ### Where material comes from -/

/-- A source as the look-up of its path found it: it has its real path in the directory of the site,
and is the file to which this path leads. -/
structure Source.FoundIn (s : Source) (v : Vantage) (root : Path) : Prop where
  realPath : v.realPath (root ++ s.path) = .ok s.place
  inside : ∃ top, v.realPath root = .ok top ∧ top <+: s.place
  entry : ∃ mode, v.stat (Location.path s.place) = .ok ⟨.file s.content s.modified, mode⟩

theorem Site.lookup_some {v : Vantage} {root p : Path} {found : Found}
    (h : Site.lookup v root p = .ok (some found)) :
    v.realPath (root ++ p) = .ok found.place ∧
      (∃ top, v.realPath root = .ok top ∧ top <+: found.place) ∧
      v.stat (Location.path found.place) = .ok found.entry := by
  unfold Site.lookup at h
  split at h
  · cases h
  split at h
  · rename_i place top hplace htop
    split at h
    · rename_i hprefix
      unfold Site.statPlace at h
      split at h
      · rename_i entry hstat
        cases h
        exact ⟨hplace, ⟨top, htop, List.isPrefixOf_iff_prefix.mp hprefix⟩, hstat⟩
      all_goals cases h
    · cases h
  all_goals cases h

namespace App

/-- All that the material of an answer may be: a failure or one of the answers without a file, or a
file that a look-up found. -/
inductive Makes (a : App) (v : Vantage) (r : Request) : Material → Prop
  | failure (e : Failure) : Makes a v r (.fixed (.error e))
  | notFound : Makes a v r (.fixed (notFound r))
  | unauthorized : Makes a v r (.fixed (refuse .unauthorized []))
  | notAllowed :
      Makes a v r (.fixed (refuse .methodNotAllowed [("allow".toList, allowed)]))
  | outside : Makes a v r (.fixed (outside a r (routePath r.rootPath r.path)))
  | redirect : Makes a v r (.fixed (redirectToDirectory r))
  | file (s : Source) (h : s.FoundIn v a.rootPath) : Makes a v r (.file s)

variable {a : App} {v : Vantage} {r : Request}

theorem Makes.ofFound {p : Path} {found : Found} {isPage : Bool} {otherwise : Material}
    (h : Site.lookup v a.rootPath p = .ok (some found)) (hotherwise : a.Makes v r otherwise) :
    a.Makes v r (.ofFound p found isPage otherwise) := by
  obtain ⟨hplace, hinside, hstat⟩ := Site.lookup_some h
  obtain ⟨place, ⟨node, mode⟩⟩ := found
  cases node with
  | file content modified =>
      exact .file ⟨p, place, content, modified, isPage⟩ ⟨hplace, hinside, mode, hstat⟩
  | _ => exact hotherwise

variable (a v r)

theorem missingMaterial_makes : a.Makes v r (a.missingMaterial v r) := by
  unfold missingMaterial
  split
  · split
    · exact .failure _
    · exact .notFound
    · rename_i page hpage
      exact .ofFound hpage .notFound
  · exact .notFound

theorem directoryMaterial_makes (p : Path) : a.Makes v r (a.directoryMaterial v r p) := by
  unfold directoryMaterial
  split
  · split
    · exact .failure _
    · exact a.missingMaterial_makes v r
    · rename_i index hindex
      split
      · exact .redirect
      · exact .ofFound hindex (a.missingMaterial_makes v r)
  · exact a.missingMaterial_makes v r

theorem contentMaterial_makes (p : Path) : a.Makes v r (a.contentMaterial v r p) := by
  unfold contentMaterial
  split
  · exact .notFound
  · split
    · exact .unauthorized
    · split
      · exact .notFound
      · exact .failure _
  · exact .failure _
  · exact a.missingMaterial_makes v r
  · rename_i found hfound
    split
    · exact a.directoryMaterial_makes v r p
    · exact .ofFound hfound (a.missingMaterial_makes v r)

theorem material_makes : a.Makes v r (a.material v r) := by
  have hinside : ∀ route rest, a.Makes v r (a.insideMaterial v r route rest) := by
    intro route rest
    unfold insideMaterial
    split
    · exact a.contentMaterial_makes v r _
    · exact .notAllowed
  unfold material
  split
  · exact .failure _
  · exact .outside
  · split
    · exact hinside _ _
    · split
      · exact .failure _
      · exact hinside _ _

/-- Whatever file an answer is made from lies, by its real path, in the directory of the site. -/
theorem foundIn_of_material {s : Source} (h : a.material v r = .file s) :
    s.FoundIn v a.rootPath := by
  have hmakes := a.material_makes v r
  rw [h] at hmakes
  cases hmakes with
  | file _ hfound => exact hfound

/-- Where a request is redirected: to a path that the mount takes, where it takes the one of the request
but for a slash, or from a directory to its path with a slash. -/
inductive RedirectsTo (a : App) (r : Request) : Text → Prop
  | slash (path rest target : Text)
      (taken : a.mount.match? (routePath r.rootPath path) = .ok (some rest))
      (told : r.urlText path = .ok target) : RedirectsTo a r target
  | directory (u : Url) (told : r.url = .ok u) :
      RedirectsTo a r (Url.text { u with path := u.path ++ ['/'] })

/-- All that may be delivered without a file: a refusal or a redirect. -/
inductive Tells (a : App) (r : Request) : Delivery → Prop
  | refusal (status : Status) (first : Headers) (message : Text)
      (named : status ∈ [.notFound, .unauthorized, .methodNotAllowed])
      (added : first = [] ∨ first = [("allow".toList, allowed)]) :
      Tells a r ⟨Response.refusal status first message, none⟩
  | redirect (target : Text) (leads : a.RedirectsTo r target) :
      Tells a r ⟨Response.redirect target, none⟩

variable {a v r} {boundary : Text} {d : Delivery}

theorem notFound_tells (h : notFound r = .ok d) : a.Tells r d := by
  unfold notFound at h
  split at h
  · cases h
    exact .refusal _ _ _ (by decide) (Or.inl rfl)
  · cases h

theorem outside_tells {route : Text} (h : outside a r route = .ok d) : a.Tells r d := by
  unfold outside at h
  split at h
  · exact notFound_tells h
  · simp only at h
    split at h
    · cases h
    · exact notFound_tells h
    · rename_i rest htaken
      split at h
      · rename_i target htold
        cases h
        exact .redirect target (.slash _ rest target htaken htold)
      · cases h

theorem redirectToDirectory_tells (h : redirectToDirectory r = .ok d) : a.Tells r d := by
  unfold redirectToDirectory at h
  split at h
  · rename_i u htold
    cases h
    exact .redirect _ (.directory u htold)
  · cases h

/-- What is made of no file tells so. -/
theorem Makes.tells {result : Except Failure Delivery} (h : a.Makes v r (.fixed result))
    (hd : result = .ok d) : a.Tells r d := by
  cases h with
  | failure e => cases hd
  | notFound => exact notFound_tells hd
  | unauthorized =>
      cases hd
      exact .refusal _ _ _ (by decide) (Or.inl rfl)
  | notAllowed =>
      cases hd
      exact .refusal _ _ _ (by decide) (Or.inr rfl)
  | outside => exact outside_tells hd
  | redirect => exact redirectToDirectory_tells hd

/-- All that may be delivered: a refusal, a redirect, or what is sent of a file that a look-up
found. -/
inductive Delivers (a : App) (v : Vantage) (boundary : Text) (r : Request) : Delivery → Prop
  | refusal (status : Status) (first : Headers) (message : Text)
      (named : status ∈ [.notFound, .unauthorized, .methodNotAllowed])
      (added : first = [] ∨ first = [("allow".toList, allowed)]) :
      Delivers a v boundary r ⟨Response.refusal status first message, none⟩
  | redirect (target : Text) : Delivers a v boundary r ⟨Response.redirect target, none⟩
  | page (s : Source) (d : FileResponse.Description) (found : s.FoundIn v a.rootPath)
      (described : Material.describe s = .ok d) :
      Delivers a v boundary r (FileResponse.whole v s.place d (headOnly r) .notFound)
  | file (s : Source) (d : FileResponse.Description) (found : s.FoundIn v a.rootPath)
      (described : Material.describe s = .ok d) :
      Delivers a v boundary r (FileResponse.answer v s.place d (headOnly r) boundary r.headers)

theorem Tells.delivers (h : a.Tells r d) : a.Delivers v boundary r d := by
  cases h with
  | refusal status first message hnamed hadded => exact .refusal status first message hnamed hadded
  | redirect target => exact .redirect target

theorem Makes.delivers {m : Material} (h : a.Makes v r m) (hd : m.result v boundary r = .ok d) :
    a.Delivers v boundary r d := by
  cases m with
  | fixed result => exact (h.tells hd).delivers
  | file s =>
      cases h with
      | file _ hfound =>
          rw [Material.result] at hd
          cases hdescribe : Material.describe s with
          | error e =>
              rw [hdescribe] at hd
              cases hd
          | ok description =>
              rw [hdescribe] at hd
              cases hd
              dsimp only
              split
              · exact .page s description hfound hdescribe
              · exact .file s description hfound hdescribe

end App

end StaticSite
