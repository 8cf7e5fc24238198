import StaticSite.Proofs.Absent

/-! What a site withstands. In a plain tree a site at the top answers each request of which the path can
be told, whatever its method, its path and its headers: the answer is complete and no internal error.
Two things alone make it fail, and both lie in the tree: an index or a page whose path is longer than the
system takes, and, where a tree keeps such times, a file of a time that no date can name. -/

namespace StaticSite

/-- An answer that went well, which may well be a refusal. -/
structure Answer.Sound (x : Answer) : Prop where
  raised : x.raised = none
  complete : x.complete = true
  status : x.response.status ≠ .internalError

/-- The failures for which a tree below a site is the reason. -/
inductive App.Stumbles (a : App) (v : Vantage) (top : Location) : Failure → Prop
  | undated (l : Location) (content : List UInt8) (modified : Int) (mode : Nat) (year : Int)
      (inside : top <+: l) (there : v.files.find? l = some ⟨.file content modified, mode⟩)
      (h : Validator.ofFile modified content.length = .error year) :
      Stumbles a v top (.yearOutOfRange year)
  | again (place : Location) (e : Failure) (h : a.StumblesAt v top place e) : Stumbles a v top e

namespace App

variable {a : App} {v : Vantage} {top : Location} {r : Request} {c : Circumstances}

/-- An answer goes well if its path can be told and nothing has broken it off. -/
theorem conclude_sound (h : r.Legible) {d : Delivery} (hbroken : d.broken = none)
    (hstatus : d.response.status ≠ .internalError) : (conclude c r (.ok d)).Sound := by
  obtain ⟨shown, hshown⟩ := Request.legible_iff_shownPath.mp h
  simp only [conclude, hshown]
  exact ⟨hbroken, by rw [hbroken]; rfl, hstatus⟩

theorem refuse_sound (h : r.Legible) {status : Status} (hstatus : status ≠ .internalError)
    (first : Headers) : (conclude c r (refuse status first)).Sound :=
  conclude_sound h rfl hstatus

theorem notFound_sound (h : r.Legible) : (conclude c r (notFound r)).Sound := by
  obtain ⟨shown, hshown⟩ := Request.legible_iff_shownPath.mp h
  rw [notFound, hshown]
  exact conclude_sound h rfl (by simp [Response.refusal])

theorem redirectToDirectory_sound (h : r.Legible) : (conclude c r (redirectToDirectory r)).Sound := by
  obtain ⟨u, hu⟩ := h
  rw [redirectToDirectory, hu]
  exact conclude_sound ⟨u, hu⟩ rfl (by simp [Response.redirect])

theorem outside_sound (h : r.Legible) (hmount : a.mount = ⟨[]⟩) (route : Text) :
    (conclude c r (outside a r route)).Sound := by
  rw [outside]
  split
  · exact notFound_sound h
  · obtain ⟨found, hfound⟩ := Mount.exists_match?_top (routePath r.rootPath (otherSlash route r.path))
    obtain ⟨target, htarget⟩ := h.exists_urlText (otherSlash route r.path)
    simp only [hmount, hfound, htarget]
    cases found with
    | none => exact notFound_sound h
    | some rest => exact conclude_sound h rfl (by simp [Response.redirect])

end App

/-! ### Files -/

namespace FileResponse

variable {v : Vantage} {place : Location} {d : Description} {headOnly : Bool} {boundary : Text}
  {content : List UInt8}

theorem broken_deliver (hread : v.read (Location.path place) = .ok content) (status : Status)
    (headers : Headers) (body : List UInt8 → List UInt8) :
    (deliver v place headOnly status headers body).broken = none := by
  unfold deliver
  rw [hread]
  split <;> rfl

/-- Nothing breaks a response off that comes from a file which can be read. -/
theorem broken_answer (hread : v.read (Location.path place) = .ok content) (request : Headers) :
    (answer v place d headOnly boundary request).broken = none := by
  have hwhole : (whole v place d headOnly .ok).broken = none := broken_deliver hread _ _ _
  unfold answer
  split
  · rfl
  split
  · exact hwhole
  split
  · split
    · unfold parts
      split
      · exact hwhole
      · exact broken_deliver hread _ _ _
      · exact broken_deliver hread _ _ _
    · rfl
  · exact hwhole

end FileResponse

namespace Material

/-- What fails of a description is that no date can name the time. -/
theorem exists_year_of_describe {s : Source} {e : Failure} (h : describe s = .error e) :
    ∃ year, Validator.ofFile s.modified s.content.length = .error year ∧ e = .yearOutOfRange year := by
  rw [describe] at h
  cases hvalidator : Validator.ofFile s.modified s.content.length with
  | error year =>
      rw [hvalidator] at h
      cases h
      exact ⟨year, rfl, rfl⟩
  | ok validator =>
      rw [hvalidator] at h
      cases h

end Material

/-- In a plain tree a source stands at its place, at or below the top. -/
theorem Source.FoundIn.find?_place {s : Source} {a : App} {v : Vantage} {top : Location}
    (h : s.FoundIn v a.rootPath) (hsite : a.StandsAt v top) :
    top <+: s.place ∧ ∃ mode, v.files.find? s.place = some ⟨.file s.content s.modified, mode⟩ := by
  have hnotNull : ∀ p place, v.realPath p = .ok place →
      (∀ part ∈ p, part.contains '\x00' = false) ∧ place = Path.applyTo v.workingDirectory p := by
    intro p place hplace
    have hnull : ∀ part ∈ p, part.contains '\x00' = false := by
      intro part hpart
      cases hcontains : part.contains '\x00' with
      | false => rfl
      | true =>
          rw [hsite.plain.realPath_null hpart hcontains] at hplace
          cases hplace
    rw [hsite.plain.realPath_eq hnull] at hplace
    exact ⟨hnull, (Except.ok.inj hplace).symm⟩
  constructor
  · obtain ⟨top', htop', hinside⟩ := h.inside
    rw [(hnotNull _ _ htop').2, hsite.top] at hinside
    exact hinside
  · have hnames : ∀ name ∈ s.place, Path.IsName name :=
      (hnotNull _ _ h.realPath).2 ▸ hsite.plain.grounded.isName_applyTo _
    obtain ⟨mode, hstat⟩ := h.entry
    rcases hsite.plain.stat_cases hnames with ⟨e, he, -, hstat'⟩ | ⟨-, hnot | hnot⟩ | ⟨-, hnot | hnot⟩
    · rw [hstat] at hstat'
      cases hstat'
      exact ⟨mode, he⟩
    all_goals
      rw [hstat] at hnot
      cases hnot

namespace App

variable {a : App} {v : Vantage} {top place : Location} {r : Request} {c : Circumstances}

/-- An answer from a file goes well, unless no date can name the time of it. -/
theorem file_sound (hsite : a.StandsAt v top) (h : r.Legible) {s : Source}
    (hfound : s.FoundIn v a.rootPath) :
    (conclude c r ((Material.file s).result v c.boundary r)).Sound ∨
      ∃ e, a.Stumbles v top e ∧
        (conclude c r ((Material.file s).result v c.boundary r)).raised = some e := by
  obtain ⟨hinside, mode, hthere⟩ := hfound.find?_place hsite
  have hread := hfound.read_eq hsite.plain
  rw [Material.result]
  cases hdescribe : Material.describe s with
  | error e =>
      right
      obtain ⟨year, hyear, rfl⟩ := Material.exists_year_of_describe hdescribe
      obtain ⟨shown, hshown⟩ := Request.legible_iff_shownPath.mp h
      refine ⟨_, .undated s.place s.content s.modified mode year hinside hthere hyear, ?_⟩
      simp only [Except.map, conclude, hshown]
  | ok d =>
      left
      rw [Except.map]
      split
      · refine conclude_sound h ?_ ?_
        · exact FileResponse.broken_deliver hread _ _ _
        · rw [FileResponse.status_whole]
          decide
      · exact conclude_sound h (FileResponse.broken_answer hread _)
          (FileResponse.status_answer_ne (by decide) _)

theorem gives_sound (hsite : a.StandsAt v top) (h : r.Legible) {served : Served} {m : Material}
    (hgives : a.Gives v top place r served m) (hfound : ∀ s, m = .file s → s.FoundIn v a.rootPath) :
    (conclude c r (m.result v c.boundary r)).Sound ∨
      ∃ e, a.Stumbles v top e ∧ (conclude c r (m.result v c.boundary r)).raised = some e := by
  rcases hgives with hmade | ⟨e, rfl, hstumbles⟩
  · cases hmade with
    | file s => exact file_sound hsite h (hfound s rfl)
    | redirect => exact Or.inl (redirectToDirectory_sound h)
    | page s => exact file_sound hsite h (hfound s rfl)
    | refusal => exact Or.inl (notFound_sound h)
  · obtain ⟨shown, hshown⟩ := Request.legible_iff_shownPath.mp h
    refine Or.inr ⟨e, .again place e hstumbles, ?_⟩
    simp only [Material.result, conclude, hshown]

/-- With times that a tree keeps, only a second look-up can be the reason. -/
theorem Stumbles.exists_stumblesAt {e : Failure} (h : a.Stumbles v top e) (hkept : v.files.Kept) :
    ∃ place, a.StumblesAt v top place e := by
  cases h with
  | undated l content modified mode year _ hthere hyear =>
      have hnameable := hkept.nameable hthere
      rw [← Validator.ofFile_isOk _ content.length, hyear] at hnameable
      cases hnameable
  | again place _ hstumbles => exact ⟨place, hstumbles⟩

/-- In a plain tree a site at the top answers each request of which the path can be told, or fails for a
reason that lies in the tree. If this tree has come about from one with times that it keeps, the reason is
a path too long for a second look-up. The path can be told of each request of which the host is known. -/
theorem withstands (hsite : a.StandsAt v top)
    (hmount : Mount.ofPrefix a.settings.urlPrefix = .ok a.mount)
    (hslash : a.settings.urlPrefix = ['/']) (c : Circumstances) (r : Request) :
    (r.Legible → (a.handle v c r).2.Sound ∨
      ∃ e, a.Stumbles v top e ∧ (a.handle v c r).2.raised = some e) ∧
    (∀ s steps, s.vantage.files.Kept → (after c s steps).vantage = v →
      ∀ e, a.Stumbles v top e → ∃ place, a.StumblesAt v top place e) ∧
    (r.Located → r.Legible) := by
  have hreasons : ∀ s steps, s.vantage.files.Kept → (after c s steps).vantage = v →
      ∀ e, a.Stumbles v top e → ∃ place, a.StumblesAt v top place e := by
    rintro s steps hkept rfl e hstumbles
    exact hstumbles.exists_stumblesAt (kept_after hkept steps)
  refine ⟨fun hlegible => ?_, hreasons, Request.Located.legible⟩
  have htop : a.mount = ⟨[]⟩ := by
    rw [hslash, Mount.ofPrefix_slash] at hmount
    exact (Except.ok.inj hmount).symm
  obtain ⟨found, hfound⟩ := Mount.exists_match?_top (routePath r.rootPath r.path)
  rw [← htop] at hfound
  rw [handle_snd]
  cases found with
  | none =>
      have hmaterial : a.material v r = .fixed (outside a r (routePath r.rootPath r.path)) := by
        rw [material, hfound]
      rw [hmaterial]
      exact Or.inl (outside_sound hlegible htop _)
  | some rest =>
      by_cases hmethod : r.method = "GET".toList ∨ headOnly r = true
      · have hmaterial := material_below hsite hfound hmethod
        have hsource := fun s => a.foundIn_of_material v r (s := s)
        rw [hmaterial] at hsource ⊢
        rcases content_gives (r := r) hsite (Path.reduce_ne_nil _) with hgives | ⟨hrefused, -⟩
        · exact gives_sound hsite hlegible hgives hsource
        · rw [filePath, hrefused]
          exact Or.inl (notFound_sound hlegible)
      · have hmaterial : a.material v r =
            .fixed (refuse .methodNotAllowed [("allow".toList, allowed)]) := by
          rw [material, hfound, hsite.checkRoot_eq]
          simp only [ite_self, insideMaterial]
          exact if_neg hmethod
        rw [hmaterial]
        exact Or.inl (refuse_sound hlegible (by decide) _)

end App

/-! ### A root with a long path -/

namespace DeepRoot

/-- The names on the way to the root, whose path is just short enough. -/
def names : Location :=
  List.replicate 15 (List.replicate 255 'a') ++ [List.replicate 254 'b']

def site : App := ⟨Settings.standard (Path.text names), ⟨[]⟩, false⟩

/-- The root is empty. -/
def vantage : Vantage :=
  ⟨⟨names.inits.tail.map fun l => (l, ⟨.directory, 0o755⟩)⟩, .superuser, []⟩

theorem standsAt : site.StandsAt vantage names where
  plain := Vantage.plain_of_isPlain (by decide +kernel)
  root := ⟨⟨.directory, 0o755⟩, by decide +kernel, rfl⟩
  top := by decide +kernel

/-- The request leads out of the root, and the site fails on the page that would tell so. -/
theorem stumbles :
    (site.handle vantage SmallSite.circumstances (SmallSite.request "/..")).2.response.status =
        .internalError ∧
      ∃ place e, site.StumblesAt vantage names place e ∧
        (site.handle vantage SmallSite.circumstances (SmallSite.request "/..")).2.raised =
          some e := by
  have hlocated : (SmallSite.request "/..").Located :=
    .server "testserver".toList 80 80 rfl (by decide) (if_pos (Or.inl rfl))
  have hstatus : (site.handle vantage SmallSite.circumstances
      (SmallSite.request "/..")).2.response.status = .internalError := by
    decide +kernel
  obtain ⟨hanswered, hreasons, hlegible⟩ :=
    App.withstands standsAt Mount.ofPrefix_slash rfl SmallSite.circumstances
      (SmallSite.request "/..")
  obtain hsound | ⟨e, hstumbles, hraised⟩ := hanswered (hlegible hlocated)
  · exact absurd hstatus hsound.status
  · have hkept : vantage.files.Kept := by decide +kernel
    obtain ⟨place, hplace⟩ := hreasons ⟨vantage, site, false⟩ [] hkept rfl e hstumbles
    exact ⟨hstatus, place, e, hplace, hraised⟩

end DeepRoot

end StaticSite
