import StaticSite.Proofs.Histories
import StaticSite.Proofs.Legible
import StaticSite.Proofs.Routing

/-! A site below a prefix and the same site at the top. What the first answers to a path below the
prefix the second answers to the rest of the path: both come to the same file, and only where a
redirect leads and the path that a refusal names tell where the site stands. This holds as long as the
paths of both requests can be told, or of neither. -/

namespace StaticSite

/-- The headers of which the value depends on where a site stands or on how long an answer took. -/
def Headers.passing : List Text :=
  ["location", "x-response-time"].map String.toList

/-- The other headers of a message. -/
def Headers.standing (headers : Headers) : Headers :=
  headers.filter fun (name, _) => !passing.contains name

/-- Responses that differ in no more than where a redirect leads and how long they took. -/
structure Response.Agrees (x y : Response) : Prop where
  status : x.status = y.status
  headers : x.headers.standing = y.headers.standing
  body : x.body = y.body

theorem Response.Agrees.symm {x y : Response} (h : x.Agrees y) : y.Agrees x :=
  ⟨h.status.symm, h.headers.symm, h.body.symm⟩

theorem Response.Agrees.trans {x y z : Response} (h : x.Agrees y) (h' : y.Agrees z) : x.Agrees z :=
  ⟨h.status.trans h'.status, h.headers.trans h'.headers, h.body.trans h'.body⟩

theorem Headers.standing_append_of_mem {name : Text} (h : name ∈ passing) (headers : Headers)
    (value : Text) : standing (headers ++ [(name, value)]) = standing headers := by
  rw [standing, standing, List.filter_append, List.filter_cons_of_neg (by simpa using h),
    List.filter_nil, List.append_nil]

/-- How long a response took is no difference. -/
theorem Response.agrees_timed (x : Response) (c : Circumstances) :
    Agrees { x with headers := x.headers ++ [App.timeHeader c] } x where
  status := rfl
  headers := Headers.standing_append_of_mem (by decide) x.headers c.elapsedExactly
  body := rfl

/-- Nor is where a redirect leads. -/
theorem Response.agrees_redirect (target target' : Text) :
    (redirect target).Agrees (redirect target') where
  status := rfl
  headers := by
    have hlocation : ∀ t, Headers.standing (redirect t).headers =
        Headers.standing [("content-length".toList, ['0'])] :=
      fun t => Headers.standing_append_of_mem (by decide) [("content-length".toList, ['0'])]
        (Url.location t)
    rw [hlocation, hlocation]
  body := rfl

/-- Responses to two requests that tell the same of the site: one response, or refusals that each
name the path of their request. -/
inductive Response.Relocated (r r' : Request) (x y : Response) : Prop
  | same (response : x.Agrees y)
  | refused (shown shown' : Text) (told : r.shownPath = .ok shown) (told' : r'.shownPath = .ok shown')
      (response : x.Agrees (refusal .notFound [] (App.notFoundMessage r shown)))
      (response' : y.Agrees (refusal .notFound [] (App.notFoundMessage r' shown')))

/-- So for answers, which are complete or not alike. -/
structure Answer.Relocated (r r' : Request) (x y : Answer) : Prop where
  response : x.response.Relocated r r' y.response
  complete : x.complete = y.complete

namespace Request

/-- A request to a site at the top for the rest of a path, made in the same way as another one. -/
structure Resumes (r' r : Request) (rest : Text) : Prop where
  method : r'.method = r.method
  headers : r'.headers = r.headers
  server : r'.server = r.server
  scheme : r'.scheme = r.scheme
  decoded : r'.decoded = '/' :: rest

variable {r r' : Request} {rest : Text}

theorem Resumes.legible_iff (h : r'.Resumes r rest) (hhost : ¬ r.Hostless) :
    r'.Legible ↔ r.Legible := by
  refine Request.legible_iff h.scheme ?_ hhost
  rw [authority?, authority?, h.headers, h.server, h.scheme]

end Request

/-! ### What the answers are made of -/

namespace Material

/-- Materials that differ in no more than the request of which a refusal or a redirect tells. -/
inductive Moved (r r' : Request) : Material → Material → Prop
  | same (m : Material) : Moved r r' m m
  | notFound : Moved r r' (.fixed (App.notFound r)) (.fixed (App.notFound r'))
  | redirect : Moved r r' (.fixed (App.redirectToDirectory r)) (.fixed (App.redirectToDirectory r'))

variable {r r' : Request}

theorem Moved.ofFound {otherwise otherwise' : Material} (h : Moved r r' otherwise otherwise')
    (path : Path) (found : Found) (isPage : Bool) :
    Moved r r' (ofFound path found isPage otherwise) (ofFound path found isPage otherwise') := by
  obtain ⟨place, ⟨node, mode⟩⟩ := found
  cases node with
  | file content modified => exact .same _
  | _ => exact h

end Material

namespace App

variable (a : App) (v : Vantage) {r r' : Request}

theorem missingMaterial_moved : (a.missingMaterial v r).Moved r r' (a.missingMaterial v r') := by
  unfold missingMaterial
  split
  · split
    · exact .same _
    · exact .notFound
    · exact .ofFound .notFound _ _ _
  · exact .notFound

theorem directoryMaterial_moved (hslash : r'.path.endsWith ['/'] = r.path.endsWith ['/']) (p : Path) :
    (a.directoryMaterial v r p).Moved r r' (a.directoryMaterial v r' p) := by
  have hmissing : (a.missingMaterial v r).Moved r r' (a.missingMaterial v r') :=
    a.missingMaterial_moved v
  unfold directoryMaterial
  rw [hslash]
  split
  · split
    · exact .same _
    · exact hmissing
    · split
      · exact .redirect
      · exact hmissing.ofFound _ _ _
  · exact hmissing

theorem contentMaterial_moved (hslash : r'.path.endsWith ['/'] = r.path.endsWith ['/']) (p : Path) :
    (a.contentMaterial v r p).Moved r r' (a.contentMaterial v r' p) := by
  have hmissing : (a.missingMaterial v r).Moved r r' (a.missingMaterial v r') :=
    a.missingMaterial_moved v
  unfold contentMaterial
  split
  · exact .notFound
  · split
    · exact .same _
    · split
      · exact .notFound
      · exact .same _
  · exact .same _
  · exact hmissing
  · split
    · exact a.directoryMaterial_moved v hslash p
    · exact hmissing.ofFound _ _ _

end App

/-! ### What is answered -/

namespace Material

variable {r r' : Request} (v : Vantage)

/-- A file makes the same result for requests with the same method and headers. -/
theorem result_congr (hmethod : r'.method = r.method) (hheaders : r'.headers = r.headers)
    (boundary : Text) (m : Material) : m.result v boundary r' = m.result v boundary r := by
  cases m with
  | fixed result => rfl
  | file s =>
      have hhead : App.headOnly r' = App.headOnly r := by
        rw [App.headOnly, App.headOnly, hmethod]
      rw [result, result, hhead, hheaders]

end Material

namespace App

variable {r r' : Request} {c c' : Circumstances}

/-- One result is concluded alike for two requests, if the paths of both can be told. -/
theorem conclude_same {shown shown' : Text} (hshown : r.shownPath = .ok shown)
    (hshown' : r'.shownPath = .ok shown') (result : Except Failure Delivery) :
    (conclude c r result).Relocated r r' (conclude c' r' result) := by
  cases result with
  | error e =>
      simp only [conclude, hshown, hshown']
      exact ⟨.same ⟨rfl, rfl, rfl⟩, rfl⟩
  | ok d =>
      simp only [conclude, hshown, hshown']
      exact ⟨.same ((d.response.agrees_timed c).trans (d.response.agrees_timed c').symm), rfl⟩

/-- What is made of moved materials differs in no more than where the site stands. -/
theorem conclude_moved {m m' : Material} (h : m.Moved r r' m') (hmethod : r'.method = r.method)
    (hheaders : r'.headers = r.headers) (hlegible : r.Legible) (hlegible' : r'.Legible) (v : Vantage)
    (boundary : Text) :
    (conclude c r (m.result v boundary r)).Relocated r r'
      (conclude c' r' (m'.result v boundary r')) := by
  obtain ⟨shown, hshown⟩ := Request.legible_iff_shownPath.mp hlegible
  obtain ⟨shown', hshown'⟩ := Request.legible_iff_shownPath.mp hlegible'
  cases h with
  | same m =>
      rw [Material.result_congr v hmethod hheaders]
      exact conclude_same hshown hshown' _
  | notFound =>
      simp only [Material.result, notFound, hshown, hshown', conclude]
      exact ⟨.refused shown shown' hshown hshown' (Response.agrees_timed _ c)
        (Response.agrees_timed _ c'), rfl⟩
  | redirect =>
      obtain ⟨u, hu⟩ := hlegible
      obtain ⟨u', hu'⟩ := hlegible'
      simp only [Material.result, redirectToDirectory, hu, hu', conclude, hshown, hshown']
      have hredirect := Response.agrees_redirect (Url.text { u with path := u.path ++ ['/'] })
        (Url.text { u' with path := u'.path ++ ['/'] })
      exact ⟨.same (((Response.agrees_timed _ c).trans hredirect).trans
        (Response.agrees_timed _ c').symm), rfl⟩

/-- A request of which the path cannot be told is answered alike in all cases. -/
theorem conclude_illegible (h : ¬ r.Legible) (h' : ¬ r'.Legible)
    (result result' : Except Failure Delivery) :
    (conclude c r result).Relocated r r' (conclude c' r' result') := by
  obtain ⟨e, -, he⟩ := Request.not_legible h
  obtain ⟨e', -, he'⟩ := Request.not_legible h'
  rw [conclude_of_error he, conclude_of_error he']
  exact ⟨.same ⟨rfl, rfl, rfl⟩, rfl⟩

/-! ### A site at the top in place of one below a prefix -/

/-- The same site at the top. -/
def atTop (a : App) : App :=
  { a with settings := { a.settings with urlPrefix := ['/'] }, mount := ⟨[]⟩ }

variable {a : App} {rest : Text}

theorem create_atTop {s : Settings} {top : App} (hcreate : create s = .ok a)
    (htop : create { s with urlPrefix := ['/'] } = .ok top) : top = a.atTop := by
  obtain ⟨rfl, hunknown⟩ := of_create hcreate
  rw [create, Mount.ofPrefix_slash] at htop
  cases htop
  rw [atTop, hunknown]

theorem mount_of_create {s : Settings} (hcreate : create s = .ok a) :
    Mount.ofPrefix a.settings.urlPrefix = .ok a.mount := by
  rw [create] at hcreate
  cases hmount : Mount.ofPrefix s.urlPrefix with
  | error e =>
      rw [hmount] at hcreate
      cases hcreate
  | ok mount =>
      rw [hmount] at hcreate
      cases hcreate
      exact hmount

/-- What is made of a request below the mount is made of the rest of its path at the top. -/
theorem material_moved (hmount : Mount.ofPrefix a.settings.urlPrefix = .ok a.mount)
    (hline : '\n' ∉ r.decoded) (hmatch : a.mount.match? r.decoded = .ok (some rest))
    (hresumes : r'.Resumes r rest) (v : Vantage) :
    (a.material v r).Moved r r' (a.atTop.material v r') := by
  obtain ⟨path, hpath⟩ := Mount.exists_cons_of_match? hmount hmatch
  obtain ⟨before, after, hdivides⟩ := Mount.divides_of_match? hmatch
  obtain rfl : after = [] := by
    rcases hdivides.closing with h | rfl
    · exact h
    · refine absurd ?_ hline
      rw [hdivides.whole]
      simp
  have hwhole : r.decoded = before ++ '/' :: rest := by
    rw [hdivides.whole, List.append_nil]
  have hroute := routePath_decoded hpath
  have hroute' := (routePath_decoded hresumes.decoded).trans hresumes.decoded
  have hfile : filePath r r.decoded rest = Path.reduce (Path.ofText ('/' :: rest)) := by
    rw [hwhole]
    exact filePath_eq (congrArg (r.rootPath ++ ·) hwhole)
  have hfile' : filePath r' ('/' :: rest) rest = Path.reduce (Path.ofText ('/' :: rest)) :=
    filePath_eq (congrArg (r'.rootPath ++ ·) hresumes.decoded : _ = _ ++ ([] ++ '/' :: rest))
  have hslash : r'.path.endsWith ['/'] = r.path.endsWith ['/'] := by
    have hpath' : r'.path = r'.rootPath ++ '/' :: rest := congrArg (r'.rootPath ++ ·) hresumes.decoded
    have hpath : r.path = (r.rootPath ++ before) ++ '/' :: rest := by
      rw [List.append_assoc]
      exact congrArg (r.rootPath ++ ·) hwhole
    rw [hpath, hpath', Text.endsWith_append_cons, Text.endsWith_append_cons]
  have hinside : (a.insideMaterial v r r.decoded rest).Moved r r'
      (a.atTop.insideMaterial v r' ('/' :: rest) rest) := by
    have hhead : headOnly r' = headOnly r := by
      rw [headOnly, headOnly, hresumes.method]
    rw [insideMaterial, insideMaterial, hresumes.method, hhead, hfile, hfile']
    split
    · exact a.contentMaterial_moved v hslash _
    · exact .same _
  rw [material, material, hroute, hroute', hmatch, atTop, Mount.match?_top hdivides.line]
  simp only
  split
  · exact hinside
  · split
    · exact .same _
    · exact hinside

/-- A request below the mount finds the directory exactly where one for the rest at the top does. -/
theorem rootChecked_moved (hmount : Mount.ofPrefix a.settings.urlPrefix = .ok a.mount)
    (hmatch : a.mount.match? r.decoded = .ok (some rest)) (hresumes : r'.Resumes r rest)
    (v : Vantage) : (a.handle v c r).1.rootChecked = (a.atTop.handle v c' r').1.rootChecked := by
  obtain ⟨path, hpath⟩ := Mount.exists_cons_of_match? hmount hmatch
  obtain ⟨before, after, hdivides⟩ := Mount.divides_of_match? hmatch
  have hbelow : a.Below r := ⟨rest, by rw [routePath_decoded hpath, hmatch]⟩
  have hbelow' : a.atTop.Below r' := by
    refine ⟨rest, ?_⟩
    rw [routePath_decoded hresumes.decoded, hresumes.decoded]
    exact Mount.match?_top hdivides.line
  rw [Bool.eq_iff_iff, rootChecked_handle, rootChecked_handle, Finds, Finds]
  simp only [hbelow, hbelow', true_and]
  exact Iff.rfl

/-- A prefix only relocates a site. What is below it answers as the site at the top answers the rest of
the path, and comes to know as much of the directory, as long as the paths of both requests can be told
or of neither; and so it is whenever something tells where the request goes. -/
theorem relocates {s : Settings} {top : App} (hcreate : create s = .ok a)
    (htop : create { s with urlPrefix := ['/'] } = .ok top) (known : Bool) (v : Vantage)
    (hboundary : c'.boundary = c.boundary) (hline : '\n' ∉ r.decoded)
    (hmatch : a.mount.match? r.decoded = .ok (some rest)) (hresumes : r'.Resumes r rest) :
    let below := ({ a with rootChecked := known } : App).handle v c r
    let above := ({ top with rootChecked := known } : App).handle v c' r'
    below.1.rootChecked = above.1.rootChecked ∧
      ((r'.Legible ↔ r.Legible) → below.2.Relocated r r' above.2) ∧
      (¬ r.Hostless → (r'.Legible ↔ r.Legible)) := by
  intro below above
  have hmount : Mount.ofPrefix a.settings.urlPrefix = .ok a.mount := mount_of_create hcreate
  obtain rfl := create_atTop hcreate htop
  refine ⟨rootChecked_moved (a := { a with rootChecked := known }) hmount hmatch hresumes v,
    fun hlegible => ?_, hresumes.legible_iff⟩
  have hmoved := material_moved (a := { a with rootChecked := known }) hmount hline hmatch hresumes v
  rw [handle_snd, handle_snd, hboundary]
  by_cases h : r.Legible
  · exact conclude_moved hmoved hresumes.method hresumes.headers h (hlegible.mpr h) v c.boundary
  · exact conclude_illegible h (fun h' => h (hlegible.mp h')) _ _

end App

/-! ### A site below a parameter -/

namespace MountedSite

open PassingRoot

def settings : Settings :=
  { PassingRoot.settings with urlPrefix := "/\x7bp\x7d".toList }

def site : App :=
  ⟨settings, ⟨[.literal '/', .parameter ['p'] .segment]⟩, false⟩

def get (target : String) (server : Option (Text × Int)) : Request :=
  { PassingRoot.get target with server }

theorem create_settings : App.create settings = .ok site := by
  decide +kernel

theorem create_top : App.create { settings with urlPrefix := ['/'] } = .ok site.atTop := by
  decide +kernel

/-- The file is answered below any name as it is at the top. -/
theorem relocates_below_name :
    let server := some ("testserver".toList, 80)
    (site.handle vantage circumstances (get "/any/index.html" server)).2.Relocated
      (get "/any/index.html" server) (get "/index.html" server)
      (site.atTop.handle vantage circumstances (get "/index.html" server)).2 := by
  intro server
  have hhost : ¬ (get "/any/index.html" server).Hostless := by
    rintro (h | h) <;> exact absurd h (by decide +kernel)
  have hline : '\n' ∉ (get "/any/index.html" server).decoded := by
    decide +kernel
  have hmatch :
      site.mount.match? (get "/any/index.html" server).decoded = .ok (some App.indexName) := by
    decide +kernel
  have hresumes : (get "/index.html" server).Resumes (get "/any/index.html" server) App.indexName :=
    ⟨rfl, rfl, rfl, rfl, by decide +kernel⟩
  have hboundary : circumstances.boundary = circumstances.boundary := rfl
  obtain ⟨-, hanswers, hlegible⟩ :=
    App.relocates create_settings create_top false vantage hboundary hline hmatch hresumes
  exact hanswers (hlegible hhost)

/-- Where nothing tells where a request goes, a tabulator in place of the name hides what stands
between two slashes, and what follows them is read as an address. -/
theorem not_relocates_hostless :
    ¬ (site.handle vantage circumstances (get "/%09/[x" none)).2.Relocated (get "/%09/[x" none)
      (get "/[x" none) (site.atTop.handle vantage circumstances (get "/[x" none)).2 := by
  have hbelow : (site.handle vantage circumstances (get "/%09/[x" none)).2.response.status =
      .internalError := by
    decide +kernel
  have htop : (site.atTop.handle vantage circumstances (get "/[x" none)).2.response.status =
      .notFound := by
    decide +kernel
  rintro ⟨⟨hresponse⟩ | ⟨shown, shown', -, -, hresponse, -⟩, -⟩
  · have := hresponse.status
    rw [hbelow, htop] at this
    cases this
  · have := hresponse.status
    rw [hbelow] at this
    cases this

end MountedSite

end StaticSite
