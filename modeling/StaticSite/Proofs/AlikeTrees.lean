import StaticSite.Proofs.Containment
import StaticSite.Proofs.Histories

/-! Trees that look alike to a site. An answer depends on the tree only by what the site finds at the few
paths that it looks up for the request, by what it reads of the file that it finds, and by whether its
directory is there; where these are the same, so is the answer. -/

namespace StaticSite

/-! ### One request -/

/-- That what is found at a path below a directory is the same in two trees, and reads the same. -/
structure Site.FindsAlike (v w : Vantage) (root p : Path) : Prop where
  found : lookup w root p = lookup v root p
  read : ∀ found, lookup v root p = .ok (some found) →
    w.read (Location.path found.place) = v.read (Location.path found.place)

namespace App

/-- The paths that a site may look up for a request: the one asked for, and if the site has pages, the
index below it and the page for what is missing. -/
def lookedUp (a : App) (r : Request) : List Path :=
  match a.mount.match? (routePath r.rootPath r.path) with
  | .ok (some rest) =>
      if r.method = "GET".toList ∨ headOnly r then
        let p := filePath r (routePath r.rootPath r.path) rest
        p :: if a.settings.htmlIndex then [p ++ [indexName], [missingName]] else []
      else []
  | _ => []

/-- That two trees look alike to a site that answers a request: it finds the same at the paths that it
may look up, and the same in place of its directory if it asks for it. -/
structure SeesAlike (a : App) (v w : Vantage) (r : Request) : Prop where
  root : a.Below r → Site.checkRoot w a.settings.rootDir = Site.checkRoot v a.settings.rootDir
  finds : ∀ p ∈ a.lookedUp r, Site.FindsAlike v w (Path.ofText a.settings.rootDir) p

variable {a : App} {v w : Vantage} {r : Request} {c : Circumstances} {boundary : Text} {p : Path}

theorem missing_congr (h : a.settings.htmlIndex = true →
    Site.FindsAlike v w (Path.ofText a.settings.rootDir) [missingName]) :
    missing a w r = missing a v r := by
  unfold missing
  split
  · have hpage := h ‹_›
    rw [hpage.found]
    cases hfound : Site.lookup v (Path.ofText a.settings.rootDir) [missingName] with
    | error e => rfl
    | ok found =>
        cases found with
        | none => rfl
        | some page => simp only [FileResponse.whole_congr (hpage.read page hfound)]
  · rfl

theorem directory_congr
    (hindex : a.settings.htmlIndex = true →
      Site.FindsAlike v w (Path.ofText a.settings.rootDir) (p ++ [indexName]))
    (hmissing : missing a w r = missing a v r) :
    directory a w boundary r p = directory a v boundary r p := by
  unfold directory
  split
  · have hindex := hindex ‹_›
    rw [hindex.found, hmissing]
    cases hfound : Site.lookup v (Path.ofText a.settings.rootDir) (p ++ [indexName]) with
    | error e => rfl
    | ok found =>
        cases found with
        | none => rfl
        | some index => simp only [FileResponse.answer_congr (hindex.read index hfound)]
  · exact hmissing

theorem content_congr (hfile : Site.FindsAlike v w (Path.ofText a.settings.rootDir) p)
    (hdirectory : directory a w boundary r p = directory a v boundary r p)
    (hmissing : missing a w r = missing a v r) :
    content a w boundary r p = content a v boundary r p := by
  unfold content
  rw [hfile.found, hmissing, hdirectory]
  cases hfound : Site.lookup v (Path.ofText a.settings.rootDir) p with
  | error e => cases e <;> rfl
  | ok found =>
      cases found with
      | none => rfl
      | some found => simp only [FileResponse.answer_congr (hfile.read found hfound)]

theorem SeesAlike.inside_eq (h : a.SeesAlike v w r) {rest : Text}
    (hmatch : a.mount.match? (routePath r.rootPath r.path) = .ok (some rest)) (boundary : Text) :
    inside a w boundary r (routePath r.rootPath r.path) rest =
      inside a v boundary r (routePath r.rootPath r.path) rest := by
  have hfinds := h.finds
  simp only [lookedUp, hmatch] at hfinds
  unfold inside
  split
  · rw [if_pos ‹_›] at hfinds
    obtain ⟨hfile, hpages⟩ := List.forall_mem_cons.mp hfinds
    have hmissing : missing a w r = missing a v r := by
      refine missing_congr fun hhtml => hpages _ ?_
      rw [if_pos hhtml]
      exact List.mem_cons_of_mem _ List.mem_cons_self
    refine content_congr hfile (directory_congr (fun hhtml => hpages _ ?_) hmissing) hmissing
    rw [if_pos hhtml]
    exact List.mem_cons_self
  · rfl

theorem SeesAlike.respond_eq (h : a.SeesAlike v w r) (boundary : Text) :
    a.respond w boundary r = a.respond v boundary r := by
  cases hmatch : a.mount.match? (routePath r.rootPath r.path) with
  | error count => simp only [respond, hmatch]
  | ok found =>
      cases found with
      | none => simp only [respond, hmatch]
      | some rest =>
          simp only [respond, hmatch, h.inside_eq hmatch, h.root ⟨rest, hmatch⟩]

/-- A site answers a request alike, and comes to know as much, in trees that look alike to it. -/
theorem SeesAlike.handle_eq (h : a.SeesAlike v w r) (c : Circumstances) :
    a.handle w c r = a.handle v c r := by
  rw [handle, handle, h.respond_eq]

/-! ### Runs -/

/-- That two trees look alike to a site at each request of a run, whose changes are made to both. -/
def SeesAlikeDuring (a : App) (v w : Vantage) (steps : List Step) : Prop :=
  ∀ before r after, steps = before ++ .request r :: after →
    a.SeesAlike (v.applyAll (edits before)) (w.applyAll (edits before)) r

theorem seesAlikeDuring_nil : a.SeesAlikeDuring v w [] := by
  intro before r after hsteps
  simp at hsteps

theorem seesAlikeDuring_cons {x : Step} {rest : List Step} :
    a.SeesAlikeDuring v w (x :: rest) ↔
      (∀ r, x = .request r → a.SeesAlike v w r) ∧
        a.SeesAlikeDuring (v.applyAll (edits [x])) (w.applyAll (edits [x])) rest := by
  constructor
  · refine fun h => ⟨fun r hr => h [] r rest (hr ▸ rfl), ?_⟩
    rintro before r after rfl
    have := h (x :: before) r after rfl
    rwa [applyAll_edits_cons, applyAll_edits_cons w] at this
  · rintro ⟨hhead, htail⟩ before r after hsteps
    cases before with
    | nil =>
        cases hsteps
        exact hhead r rfl
    | cons y before =>
        cases hsteps
        rw [applyAll_edits_cons, applyAll_edits_cons w]
        exact htail before r after rfl

/-- It makes no difference to this whether the directory is known to be there. -/
theorem SeesAlikeDuring.known {steps : List Step} (h : a.SeesAlikeDuring v w steps) (known : Bool) :
    ({ a with rootChecked := known } : App).SeesAlikeDuring v w steps :=
  fun before r after hsteps => ⟨(h before r after hsteps).root, (h before r after hsteps).finds⟩

end App

end StaticSite
