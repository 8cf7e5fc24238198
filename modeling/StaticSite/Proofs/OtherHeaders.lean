import StaticSite.Proofs.Relocation

/-! Requests that differ in their headers. Of these a site reads the host, the range and the conditions
alone: what an answer is made of does not depend on any but the host, and the others are read only where
a file is sent. -/

namespace StaticSite

namespace Headers

/-- The headers of other names than those given in lower case. -/
def without (headers : Headers) (names : List Text) : Headers :=
  headers.filter fun (name, _) => !names.contains name.asciiLower

theorem first?_cons (other value : Text) (rest : Headers) (name : Text) :
    first? ((other, value) :: rest) name =
      if other.asciiLower = name then some value else first? rest name := by
  rw [first?, List.find?_cons]
  by_cases h : other.asciiLower = name
  · simp only [beq_iff_eq.mpr h, if_pos h, Option.map_some]
  · simp only [beq_eq_false_iff_ne.mpr h, if_neg h]
    rfl

/-- Of headers that are left out nothing is seen, the others are as they were. -/
theorem first?_filter (headers : Headers) (keep : Text → Bool) (name : Text) :
    first? (headers.filter fun (other, _) => keep other.asciiLower) name =
      if keep name = true then headers.first? name else none := by
  induction headers with
  | nil => exact (ite_self none).symm
  | cons header rest ih =>
      obtain ⟨other, value⟩ := header
      rw [List.filter_cons, first?_cons]
      by_cases hother : keep other.asciiLower = true
      · rw [if_pos hother, first?_cons, ih]
        by_cases hsame : other.asciiLower = name
        · rw [if_pos hsame, if_pos hsame, if_pos (hsame ▸ hother)]
        · rw [if_neg hsame, if_neg hsame]
      · rw [if_neg hother, ih]
        by_cases hname : keep name = true
        · have hne : other.asciiLower ≠ name := fun h => hother (h ▸ hname)
          rw [if_pos hname, if_pos hname, if_neg hne]
        · rw [if_neg hname, if_neg hname]

theorem first?_without (headers : Headers) (names : List Text) (name : Text) :
    first? (headers.without names) name = if name ∈ names then none else headers.first? name := by
  refine (first?_filter headers (fun other => !names.contains other) name).trans ?_
  by_cases hname : name ∈ names <;> simp [hname]

/-- The names, in lower case, of the headers that a site reads. -/
def heeded : List Text :=
  ["host", "range", "if-range", "if-none-match", "if-modified-since"].map String.toList

/-- The headers that a site reads. -/
def heed (headers : Headers) : Headers :=
  headers.filter fun (name, _) => heeded.contains name.asciiLower

theorem first?_heed (headers : Headers) {name : Text} (h : name ∈ heeded) :
    first? headers.heed name = headers.first? name :=
  (first?_filter headers heeded.contains name).trans (if_pos (List.contains_iff_mem.mpr h))

end Headers

namespace Request

/-- A request with other headers. -/
def withHeaders (r : Request) (headers : Headers) : Request :=
  { r with headers }

variable {r : Request} {headers : Headers}
  (h : headers.first? "host".toList = r.headers.first? "host".toList)

include h

theorem authority?_withHeaders : (r.withHeaders headers).authority? = r.authority? := by
  rw [authority?, authority?, withHeaders, h]

theorem urlText_withHeaders (path : Text) : (r.withHeaders headers).urlText path = r.urlText path := by
  rw [urlText, urlText, authority?_withHeaders h]
  rfl

theorem url_withHeaders : (r.withHeaders headers).url = r.url := by
  rw [url, url, urlText_withHeaders h]
  rfl

theorem shownPath_withHeaders : (r.withHeaders headers).shownPath = r.shownPath := by
  rw [shownPath, shownPath, url_withHeaders h]

end Request

/-- Materials that differ only in a refusal or a redirect are the same where these are. -/
theorem Material.Moved.eq {r r' : Request} {m m' : Material} (h : m.Moved r r' m')
    (hnotFound : App.notFound r' = App.notFound r)
    (hredirect : App.redirectToDirectory r' = App.redirectToDirectory r) : m' = m := by
  cases h with
  | same => rfl
  | notFound => rw [hnotFound]
  | redirect => rw [hredirect]

namespace App

variable {r : Request} {headers : Headers} (a : App) (v : Vantage)
  (h : headers.first? "host".toList = r.headers.first? "host".toList)

include h

theorem notFound_withHeaders : notFound (r.withHeaders headers) = notFound r := by
  rw [notFound, notFound, Request.shownPath_withHeaders h]
  rfl

theorem outside_withHeaders (route : Text) :
    outside a (r.withHeaders headers) route = outside a r route := by
  simp only [outside, notFound_withHeaders h, Request.urlText_withHeaders h]
  rfl

theorem redirectToDirectory_withHeaders :
    redirectToDirectory (r.withHeaders headers) = redirectToDirectory r := by
  rw [redirectToDirectory, redirectToDirectory, Request.url_withHeaders h]

/-- What an answer is made of does not depend on other headers than that for the host. -/
theorem material_withHeaders : a.material v (r.withHeaders headers) = a.material v r := by
  have hnotFound := notFound_withHeaders h
  have hredirect := redirectToDirectory_withHeaders h
  have hinside : ∀ route rest, a.insideMaterial v (r.withHeaders headers) route rest =
      a.insideMaterial v r route rest := by
    intro route rest
    have hslash : (r.withHeaders headers).path.endsWith ['/'] = r.path.endsWith ['/'] := rfl
    have hmoved := a.contentMaterial_moved v hslash (filePath r route rest)
    rw [insideMaterial, insideMaterial, ← hmoved.eq hnotFound hredirect]
    rfl
  have houtside := outside_withHeaders a h (routePath r.rootPath r.path)
  have hroute : routePath (r.withHeaders headers).rootPath (r.withHeaders headers).path =
      routePath r.rootPath r.path := rfl
  unfold material
  rw [hroute]
  simp only [hinside, houtside]

end App

/-- The answer from a file depends on the headers that are heeded. -/
theorem FileResponse.answer_of_heeded {headers headers' : Headers}
    (h : ∀ name ∈ Headers.heeded, headers'.first? name = headers.first? name) (v : Vantage)
    (place : Location) (d : Description) (headOnly : Bool) (boundary : Text) :
    answer v place d headOnly boundary headers' = answer v place d headOnly boundary headers := by
  have hcurrent : d.validator.isCurrent headers' = d.validator.isCurrent headers := by
    rw [Validator.isCurrent, Validator.isCurrent, h _ (by decide), h _ (by decide)]
  have hallowed : d.validator.allowsRange headers' = d.validator.allowsRange headers := by
    rw [Validator.allowsRange, Validator.allowsRange, h _ (by decide)]
  rw [answer, answer, hcurrent, hallowed, h _ (by decide)]

namespace App

/-- What a site comes to know of its directory depends on the path of a request alone. -/
theorem handle_fst_congr {r r' : Request}
    (hroute : routePath r'.rootPath r'.path = routePath r.rootPath r.path) (a : App) (v : Vantage)
    (c : Circumstances) : (a.handle v c r').1 = (a.handle v c r).1 := by
  simp only [handle, respond, hroute]
  cases a.mount.match? (routePath r.rootPath r.path) with
  | error count => rfl
  | ok found =>
      cases found with
      | none => rfl
      | some rest =>
          simp only
          split
          · rfl
          · split <;> rfl

/-- What is concluded from a result depends on the method of a request and the path that is shown. -/
theorem conclude_congr {r r' : Request} (hmethod : r'.method = r.method)
    (hshown : r'.shownPath = r.shownPath) (c : Circumstances) (result : Except Failure Delivery) :
    conclude c r' result = conclude c r result := by
  cases result <;> simp only [conclude, answeredLine, failedLine, hshown, hmethod]

/-- No header but those that are heeded makes a difference to a request. -/
theorem handle_withHeaders {r : Request} {headers : Headers}
    (h : ∀ name ∈ Headers.heeded, headers.first? name = r.headers.first? name) (a : App) (v : Vantage)
    (c : Circumstances) : a.handle v c (r.withHeaders headers) = a.handle v c r := by
  have hhost := h "host".toList (by decide)
  have hresult : ∀ m : Material,
      m.result v c.boundary (r.withHeaders headers) = m.result v c.boundary r := by
    intro m
    cases m with
    | fixed result => rfl
    | file s =>
        have hanswer := fun d => FileResponse.answer_of_heeded h v s.place d (headOnly r) c.boundary
        have hhead : headOnly (r.withHeaders headers) = headOnly r := rfl
        have hheaders : (r.withHeaders headers).headers = headers := rfl
        simp only [Material.result, hhead, hheaders, hanswer]
  have hfst : (a.handle v c (r.withHeaders headers)).1 = (a.handle v c r).1 :=
    handle_fst_congr (by rfl) a v c
  refine Prod.ext hfst ?_
  rw [handle_snd, handle_snd, material_withHeaders a v hhost, hresult]
  exact conclude_congr (by rfl) (Request.shownPath_withHeaders hhost) c _

end App

end StaticSite
