import StaticSite.Proofs.Material
import StaticSite.Site.History

/-! What a site remembers of what has happened to it. Of all requests it keeps one thing: that one of
them found the directory of the site there. As long as the directory is there this does not show, so
each request is answered as if it were the only one; where the directory is gone it does, since the
site then fails only if it has never found it. -/

namespace StaticSite

/-- Whether a directory can be seen at a path. -/
def Vantage.HasDirectory (v : Vantage) (path : Text) : Prop :=
  ∃ e, v.stat (Path.ofText path) = .ok e ∧ e.isDirectory = true

/-- Whether nothing is found at a path, or something that is no directory. -/
def Vantage.LacksDirectory (v : Vantage) (path : Text) : Prop :=
  v.stat (Path.ofText path) = .error (.system .notFound) ∨
    ∃ e, v.stat (Path.ofText path) = .ok e ∧ e.isDirectory = false

/-- The tree as it is seen after some changes. -/
def Vantage.applyAll (v : Vantage) (edits : List Edit) : Vantage :=
  edits.foldl Vantage.apply v

/-- A failure that is reported of the directory of a site itself. -/
def Failure.OfRoot : Failure → Prop
  | rootMissing _ => True
  | rootNotDirectory _ => True
  | _ => False

variable {a : App} {v : Vantage} {r : Request} {c : Circumstances}

/-! ### The check of the directory -/

namespace Site

theorem checkRoot_eq_ok_iff {root : Text} : checkRoot v root = .ok () ↔ v.HasDirectory root := by
  rw [checkRoot, Vantage.HasDirectory]
  rcases v.stat (Path.ofText root) with (_ | e) | entry
  · simp
  · cases e <;> simp
  · by_cases hdir : entry.isDirectory = true <;> simp [hdir]

/-- The check fails on its own account where nothing is found or something that is no directory; any
other failure is that of the look. -/
theorem checkRoot_ofRoot_iff {root : Text} :
    (∃ e, checkRoot v root = .error e ∧ e.OfRoot) ↔ v.LacksDirectory root := by
  rw [checkRoot, Vantage.LacksDirectory]
  rcases v.stat (Path.ofText root) with (_ | e) | entry
  · simp [PathError.failure, Failure.OfRoot]
  · cases e <;> simp [PathError.failure, Failure.OfRoot]
  · by_cases hdir : entry.isDirectory = true <;> simp [hdir, Failure.OfRoot]

/-- What else the check reports is the failure of its look. -/
theorem checkRoot_cases {root : Text} {e : Failure} (h : checkRoot v root = .error e) :
    e = .rootMissing root ∨ e = .rootNotDirectory root ∨ ∃ e', e = PathError.failure e' root := by
  unfold checkRoot at h
  split at h
  · split at h
    · cases h
    · cases h
      exact Or.inr (Or.inl rfl)
  · cases h
    exact Or.inl rfl
  · cases h
    exact Or.inr (Or.inr ⟨_, rfl⟩)

/-- A look-up fails only where the system refuses a path. -/
theorem exists_of_lookup {root p : Path} {e : Failure} (h : lookup v root p = .error e) :
    ∃ e' path, e = PathError.failure e' path := by
  unfold lookup statPlace at h
  split at h
  · cases h
  split at h
  · split at h
    · split at h
      · cases h
      · cases h
      · cases h
      · cases h
        exact ⟨_, _, rfl⟩
    · cases h
  · cases h
    exact ⟨_, _, rfl⟩
  · cases h
    exact ⟨_, _, rfl⟩

end Site

/-! ### Failures once the directory is known to be there -/

/-- The failures that may arise for a request past the check of the directory. -/
inductive Failure.Arises (r : Request) : Failure → Prop
  | path (e : PathError) (path : Text) : Arises r (e.failure path)
  | digits (count : Nat) : Arises r (.tooManyDigits count)
  | url (e : UrlError) (h : r.url = .error e ∨ ∃ path, r.urlText path = .error e) : Arises r (.url e)
  | year (year : Int) : Arises r (.yearOutOfRange year)

/-- None of them reports of the directory itself. -/
theorem Failure.Arises.not_ofRoot {e : Failure} (h : e.Arises r) : ¬ e.OfRoot := by
  cases h with
  | path e path => cases e <;> exact id
  | digits count => exact id
  | url e h => exact id
  | year year => exact id

namespace App

/-- The failure in what comes of a request, before a response has begun or in the middle of it. -/
def failure? : Except Failure Delivery → Option Failure
  | .error e => some e
  | .ok d => d.broken

theorem conclude_raised {shown : Text} (h : r.shownPath = .ok shown)
    (result : Except Failure Delivery) : (conclude c r result).raised = failure? result := by
  cases result <;> simp only [conclude, h, failure?]

end App

namespace Material

/-- Material of which no failure comes but such as may arise for a request. -/
def Arising (r : Request) (m : Material) : Prop :=
  ∀ v boundary r' e, App.failure? (m.result v boundary r') = some e → e.Arises r

variable (r)

theorem arising_error {e : Failure} (h : e.Arises r) : (fixed (.error e)).Arising r := by
  intro v boundary r' e' he
  cases he
  exact h

theorem arising_lookup {root p : Path} {e : Failure} (h : Site.lookup v root p = .error e) :
    (fixed (.error e)).Arising r := by
  obtain ⟨e', path, rfl⟩ := Site.exists_of_lookup h
  exact arising_error r (.path e' path)

theorem arising_refuse (status : Status) (first : Headers) :
    (fixed (App.refuse status first)).Arising r := by
  intro v boundary r' e he
  cases he

theorem arising_notFound : (fixed (App.notFound r)).Arising r := by
  intro v boundary r' e he
  rw [result, App.notFound, Request.shownPath] at he
  cases hurl : r.url with
  | ok u =>
      rw [hurl] at he
      cases he
  | error u =>
      rw [hurl] at he
      cases he
      exact .url u (Or.inl hurl)

theorem arising_redirect : (fixed (App.redirectToDirectory r)).Arising r := by
  intro v boundary r' e he
  rw [result, App.redirectToDirectory] at he
  cases hurl : r.url with
  | ok u =>
      rw [hurl] at he
      cases he
  | error u =>
      rw [hurl] at he
      cases he
      exact .url u (Or.inl hurl)

theorem arising_file (s : Source) : (file s).Arising r := by
  intro v boundary r' e he
  rw [result, describe] at he
  cases hvalidator : Validator.ofFile s.modified s.content.length with
  | error year =>
      rw [hvalidator] at he
      cases he
      exact .year year
  | ok validator =>
      rw [hvalidator] at he
      have hread : ∃ e', e = PathError.failure e' (Location.text s.place) := by
        split at he
        · exact FileResponse.deliver_broken he
        · exact FileResponse.answer_broken he
      obtain ⟨e', rfl⟩ := hread
      exact .path e' _

variable {r}

theorem Arising.ofFound {otherwise : Material} (h : otherwise.Arising r) (path : Path)
    (found : Found) (isPage : Bool) : (ofFound path found isPage otherwise).Arising r := by
  unfold Material.ofFound
  split
  · exact arising_file r _
  · exact h

end Material

namespace App

/-- Whether the path of a request lies below the mount. -/
def Below (a : App) (r : Request) : Prop :=
  ∃ rest, a.mount.match? (routePath r.rootPath r.path) = .ok (some rest)

variable (a v r)

theorem missingMaterial_arising : (a.missingMaterial v r).Arising r := by
  unfold missingMaterial
  split
  · split
    · rename_i hlookup
      exact Material.arising_lookup r hlookup
    · exact Material.arising_notFound r
    · exact (Material.arising_notFound r).ofFound _ _ _
  · exact Material.arising_notFound r

theorem directoryMaterial_arising (p : Path) : (a.directoryMaterial v r p).Arising r := by
  unfold directoryMaterial
  split
  · split
    · rename_i hlookup
      exact Material.arising_lookup r hlookup
    · exact a.missingMaterial_arising v r
    · split
      · exact Material.arising_redirect r
      · exact (a.missingMaterial_arising v r).ofFound _ _ _
  · exact a.missingMaterial_arising v r

theorem contentMaterial_arising (p : Path) : (a.contentMaterial v r p).Arising r := by
  unfold contentMaterial
  split
  · exact Material.arising_notFound r
  · rename_i hlookup
    split
    · exact Material.arising_refuse r _ _
    · split
      · exact Material.arising_notFound r
      · exact Material.arising_lookup r hlookup
  · rename_i hlookup
    exact Material.arising_lookup r hlookup
  · exact a.missingMaterial_arising v r
  · split
    · exact a.directoryMaterial_arising v r p
    · exact (a.missingMaterial_arising v r).ofFound _ _ _

/-- Past the check, nothing is reported of the directory itself. -/
theorem insideMaterial_arising (route rest : Text) : (a.insideMaterial v r route rest).Arising r := by
  unfold insideMaterial
  split
  · exact a.contentMaterial_arising v r _
  · exact Material.arising_refuse r _ _

theorem arising_outside (route : Text) : (Material.fixed (outside a r route)).Arising r := by
  have hnotFound := Material.arising_notFound r
  intro v boundary r' e he
  simp only [Material.result, outside] at he
  split at he
  · exact hnotFound v boundary r e he
  · split at he
    · cases he
      exact .digits _
    · exact hnotFound v boundary r e he
    · split at he
      · cases he
      · rename_i hurl
        cases he
        exact .url _ (Or.inr ⟨_, hurl⟩)

/-- What fails for a request may arise past the check of the directory, or is that check. -/
theorem material_failure {boundary : Text} {e : Failure}
    (h : failure? ((a.material v r).result v boundary r) = some e) :
    e.Arises r ∨
      a.Below r ∧ a.rootChecked = false ∧ Site.checkRoot v a.settings.rootDir = .error e := by
  unfold material at h
  split at h
  · cases h
    exact Or.inl (.digits _)
  · exact Or.inl (a.arising_outside r _ _ _ _ _ h)
  · rename_i rest hmatch
    split at h
    · exact Or.inl (a.insideMaterial_arising v r _ _ _ _ _ _ h)
    · rename_i hunknown
      split at h
      · rename_i e' hroot
        cases h
        exact Or.inr ⟨⟨rest, hmatch⟩, by simpa using hunknown, hroot⟩
      · exact Or.inl (a.insideMaterial_arising v r _ _ _ _ _ _ h)

end App

/-! ### One request -/

/-- An answer that reports of the directory of a site: it fails for that, in one line of an error,
and what is sent is the internal error and nothing of any file. -/
structure Answer.ReportsRoot (x : Answer) : Prop where
  raised : ∃ e, x.raised = some e ∧ e.OfRoot
  log : ∃ line, x.log = [line] ∧ line.level = .error
  response : x.response = Response.internalError

namespace App

/-- A request for a path below the mount that finds the directory of the site there. -/
def Finds (a : App) (v : Vantage) (r : Request) : Prop :=
  a.Below r ∧ v.HasDirectory a.settings.rootDir

variable (a v r c)

/-- A request changes nothing but that the directory may be known to be there. -/
theorem handle_fst :
    (a.handle v c r).1 = a ∨ (a.handle v c r).1 = { a with rootChecked := true } ∧ a.Finds v r := by
  simp only [handle, respond]
  split
  · exact Or.inl rfl
  · exact Or.inl rfl
  · rename_i rest hmatch
    split
    · exact Or.inl rfl
    · split
      · exact Or.inl rfl
      · rename_i hroot
        exact Or.inr ⟨rfl, ⟨rest, hmatch⟩, Site.checkRoot_eq_ok_iff.mp hroot⟩

theorem rootChecked_handle :
    (a.handle v c r).1.rootChecked = true ↔ a.rootChecked = true ∨ a.Finds v r := by
  constructor
  · intro h
    rcases a.handle_fst v r c with hsame | ⟨-, hfinds⟩
    · exact Or.inl (hsame ▸ h)
    · exact Or.inr hfinds
  · rintro (h | ⟨⟨rest, hmatch⟩, hroot⟩)
    · rcases a.handle_fst v r c with hsame | ⟨hchecked, -⟩
      · rw [hsame, h]
      · rw [hchecked]
    · simp only [handle, respond, hmatch, Site.checkRoot_eq_ok_iff.mpr hroot]
      split
      · assumption
      · rfl

/-- Where the directory is there, it makes no difference whether this is known. -/
theorem handle_snd_of_hasDirectory (h : v.HasDirectory a.settings.rootDir) (known : Bool) :
    (({ a with rootChecked := known } : App).handle v c r).2 = (a.handle v c r).2 := by
  have hroot := Site.checkRoot_eq_ok_iff.mpr h
  rw [handle_snd, handle_snd]
  simp only [material, hroot, ite_self]
  rfl

/-- The directory is reported of where a request asks for something below it, it has not been found
before and is not there now. Its line needs a path that can be told. -/
theorem reportsRoot_handle_iff :
    (a.handle v c r).2.ReportsRoot ↔
      a.Below r ∧ a.rootChecked = false ∧ v.LacksDirectory a.settings.rootDir ∧
        ∃ shown, r.shownPath = .ok shown := by
  rw [handle_snd]
  cases hshown : r.shownPath with
  | error u =>
      rw [conclude_of_error hshown]
      refine iff_of_false (fun h => ?_) (by simp)
      obtain ⟨line, hline, -⟩ := h.log
      cases hline
  | ok shown =>
      constructor
      · rintro ⟨⟨e, he, hofRoot⟩, -, -⟩
        rw [conclude_raised hshown] at he
        rcases a.material_failure v r he with harises | ⟨hbelow, hunknown, hroot⟩
        · exact absurd hofRoot harises.not_ofRoot
        · exact ⟨hbelow, hunknown, Site.checkRoot_ofRoot_iff.mp ⟨e, hroot, hofRoot⟩, shown, rfl⟩
      · rintro ⟨⟨rest, hmatch⟩, hunknown, hlacks, -⟩
        obtain ⟨e, hroot, hofRoot⟩ := Site.checkRoot_ofRoot_iff.mpr hlacks
        have hmaterial : a.material v r = .fixed (.error e) := by
          simp only [material, hmatch, hunknown, hroot, Bool.false_eq_true, if_false]
        rw [hmaterial, Material.result]
        simp only [conclude, hshown]
        exact ⟨⟨e, rfl, hofRoot⟩, ⟨_, rfl, rfl⟩, rfl⟩

/-- Once the directory is known to be there, no request fails on its account. -/
theorem not_ofRoot_of_rootChecked (h : a.rootChecked = true) {e : Failure}
    (he : (a.handle v c r).2.raised = some e) : ¬ e.OfRoot := by
  rw [handle_snd] at he
  cases hshown : r.shownPath with
  | error u =>
      rw [conclude_of_error hshown] at he
      cases he
      exact id
  | ok shown =>
      rw [conclude_raised hshown] at he
      rcases a.material_failure v r he with harises | ⟨-, hunknown, -⟩
      · exact harises.not_ofRoot
      · rw [h] at hunknown
        cases hunknown

end App

/-! ### Runs -/

namespace App

/-- The change of the tree that a step makes, if it makes one. -/
def Step.edit? : Step → Option Edit
  | edit e => some e
  | _ => none

/-- The changes of the tree among some steps, in their order. -/
def edits (steps : List Step) : List Edit :=
  steps.filterMap Step.edit?

theorem applyAll_edits_cons (v : Vantage) (x : Step) (rest : List Step) :
    v.applyAll (edits (x :: rest)) = (v.applyAll (edits [x])).applyAll (edits rest) := by
  cases x <;> rfl

/-- Some request among the steps finds the directory there, in the tree as it is by then. -/
def FoundDuring (a : App) (v : Vantage) (steps : List Step) : Prop :=
  ∃ before r rest, steps = before ++ .request r :: rest ∧ a.Finds (v.applyAll (edits before)) r

theorem foundDuring_cons (x : Step) (rest : List Step) :
    a.FoundDuring v (x :: rest) ↔
      (∃ r, x = .request r ∧ a.Finds v r) ∨ a.FoundDuring (v.applyAll (edits [x])) rest := by
  constructor
  · rintro ⟨before, r, after, hsteps, hfinds⟩
    cases before with
    | nil =>
        cases hsteps
        exact Or.inl ⟨r, rfl, hfinds⟩
    | cons y before =>
        cases hsteps
        rw [applyAll_edits_cons] at hfinds
        exact Or.inr ⟨before, r, after, rfl, hfinds⟩
  · rintro (⟨r, rfl, hfinds⟩ | ⟨before, r, after, rfl, hfinds⟩)
    · exact ⟨[], r, rest, rfl, hfinds⟩
    · rw [← applyAll_edits_cons] at hfinds
      exact ⟨x :: before, r, after, rfl, hfinds⟩

/-- What one step leaves of the tree and of the site. -/
theorem step_fst (s : Stage) (x : Step) :
    (step c s x).1.vantage = s.vantage.applyAll (edits [x]) ∧
      (∃ known, (step c s x).1.app = { s.app with rootChecked := known }) ∧
      ((step c s x).1.app.rootChecked = true ↔
        s.app.rootChecked = true ∨ ∃ r, x = .request r ∧ s.app.Finds s.vantage r) := by
  cases x with
  | request r =>
      refine ⟨rfl, ?_, ?_⟩
      · rcases s.app.handle_fst s.vantage r c with hsame | ⟨hchecked, -⟩
        · exact ⟨s.app.rootChecked, hsame⟩
        · exact ⟨true, hchecked⟩
      · exact (s.app.rootChecked_handle s.vantage r c).trans (by simp)
  | _ => exact ⟨rfl, ⟨s.app.rootChecked, rfl⟩, by simp [step]⟩

theorem after_vantage (s : Stage) (steps : List Step) :
    (after c s steps).vantage = s.vantage.applyAll (edits steps) := by
  induction steps generalizing s with
  | nil => rfl
  | cons x rest ih =>
      rw [after, ih, (step_fst s x).1]
      exact (applyAll_edits_cons s.vantage x rest).symm

theorem after_app (s : Stage) (steps : List Step) :
    ∃ known, (after c s steps).app = { s.app with rootChecked := known } := by
  induction steps generalizing s with
  | nil => exact ⟨s.app.rootChecked, rfl⟩
  | cons x rest ih =>
      obtain ⟨-, ⟨known, hknown⟩, -⟩ := step_fst (c := c) s x
      obtain ⟨known', hafter⟩ := ih (step c s x).1
      exact ⟨known', by rw [after, hafter, hknown]⟩

/-- The directory is known to be there exactly after a request that found it. -/
theorem rootChecked_after (s : Stage) (steps : List Step) :
    (after c s steps).app.rootChecked = true ↔
      s.app.rootChecked = true ∨ s.app.FoundDuring s.vantage steps := by
  induction steps generalizing s with
  | nil =>
      have hnone : ¬ s.app.FoundDuring s.vantage [] := by
        rintro ⟨before, r, rest, h, -⟩
        simp at h
      exact (or_iff_left hnone).symm
  | cons x rest ih =>
      obtain ⟨hvantage, ⟨known, happ⟩, hchecked⟩ := step_fst (c := c) s x
      -- What a site finds depends on its settings and its place, which no step changes.
      have hsame : (step c s x).1.app.FoundDuring (step c s x).1.vantage rest ↔
          s.app.FoundDuring (s.vantage.applyAll (edits [x])) rest := by
        rw [hvantage, happ]
        rfl
      rw [after, ih, hchecked, hsame, foundDuring_cons, or_assoc]

theorem run_append (s : Stage) (steps rest : List Step) :
    run c s (steps ++ rest) = run c s steps ++ run c (after c s steps) rest := by
  induction steps generalizing s with
  | nil => rfl
  | cons x steps ih => exact congrArg ((step c s x).2 :: ·) (ih (step c s x).1)

theorem length_run (s : Stage) (steps : List Step) : (run c s steps).length = steps.length := by
  induction steps generalizing s with
  | nil => rfl
  | cons x steps ih => exact congrArg (· + 1) (ih (step c s x).1)

/-- What is seen of a request in the course of a run. -/
theorem run_request (s : Stage) (before rest : List Step) (r : Request) :
    (run c s (before ++ .request r :: rest))[before.length]? =
      some (.answered ((after c s before).app.handle (s.vantage.applyAll (edits before)) c r).2) := by
  have hlength := length_run (c := c) s before
  rw [run_append, List.getElem?_append_right (Nat.le_of_eq hlength), hlength, Nat.sub_self,
    ← after_vantage (c := c)]
  rfl

theorem of_create {s : Settings} {fresh : App} (h : create s = .ok fresh) :
    fresh.settings = s ∧ fresh.rootChecked = false := by
  rw [create] at h
  cases hmount : Mount.ofPrefix s.urlPrefix with
  | error e =>
      rw [hmount] at h
      cases h
  | ok mount =>
      rw [hmount] at h
      cases h
      exact ⟨rfl, rfl⟩

/-- Where the directory is there, a request is answered as a new site would answer it in the tree as
it is by then. So other requests before it make no difference, nor do beginnings and ends: a history
with the same changes of the tree, in the same order, ends in the same answer. -/
theorem answered_alone {s : Settings} {fresh : App} (hcreate : create s = .ok fresh) {v : Vantage}
    {before : List Step} (hroot : (v.applyAll (edits before)).HasDirectory s.rootDir) (begun : Bool)
    (c : Circumstances) (r : Request) (rest : List Step) :
    (run c ⟨v, fresh, begun⟩ (before ++ .request r :: rest))[before.length]? =
        some (.answered (fresh.handle (v.applyAll (edits before)) c r).2) ∧
      ∀ other rest', edits other = edits before →
        (run c ⟨v, fresh, begun⟩ (other ++ .request r :: rest'))[other.length]? =
          (run c ⟨v, fresh, begun⟩ (before ++ .request r :: rest))[before.length]? := by
  obtain ⟨rfl, -⟩ := of_create hcreate
  have halone : ∀ history rest, edits history = edits before →
      (run c ⟨v, fresh, begun⟩ (history ++ .request r :: rest))[history.length]? =
        some (.answered (fresh.handle (v.applyAll (edits before)) c r).2) := by
    intro history rest hedits
    obtain ⟨known, happ⟩ := after_app (c := c) ⟨v, fresh, begun⟩ history
    rw [run_request, happ, hedits, fresh.handle_snd_of_hasDirectory _ r c hroot known]
  refine ⟨halone before rest rfl, fun other rest' hedits => ?_⟩
  rw [halone other rest' hedits, halone before rest rfl]

/-- After any history, an answer reports of the directory exactly if its request lies below the
mount, no request before has found the directory, there is none now, and the path of the request can
be told. Once the directory has been found, no request fails on its account, gone or not. -/
theorem reportsRoot_iff {s : Settings} {fresh : App} (hcreate : create s = .ok fresh) (v : Vantage)
    (begun : Bool) (c c' : Circumstances) (steps : List Step) (r : Request) :
    let stage := after c ⟨v, fresh, begun⟩ steps
    let answer := (stage.app.handle stage.vantage c' r).2
    (answer.ReportsRoot ↔
      fresh.Below r ∧ ¬ fresh.FoundDuring v steps ∧
        (v.applyAll (edits steps)).LacksDirectory s.rootDir ∧ ∃ shown, r.shownPath = .ok shown) ∧
    (fresh.FoundDuring v steps → ∀ e, answer.raised = some e → ¬ e.OfRoot) := by
  intro stage answer
  obtain ⟨rfl, hunknown⟩ := of_create hcreate
  obtain ⟨known, happ⟩ := after_app (c := c) ⟨v, fresh, begun⟩ steps
  have hchecked : stage.app.rootChecked = true ↔ fresh.FoundDuring v steps := by
    rw [rootChecked_after, hunknown]
    simp
  constructor
  · rw [reportsRoot_handle_iff, ← hchecked, Bool.not_eq_true, happ, after_vantage]
    rfl
  · intro hfound e he
    exact not_ofRoot_of_rootChecked _ _ _ _ (hchecked.mpr hfound) he

end App

/-! ### A directory that comes and goes -/

namespace PassingRoot

def settings : Settings :=
  Settings.standard "pub".toList

def site : App :=
  ⟨settings, ⟨[]⟩, false⟩

/-- A tree with a directory and a page in it. -/
def vantage : Vantage :=
  ⟨⟨[(["pub".toList], ⟨.directory, 0o755⟩),
    (["pub".toList, App.indexName], ⟨.file (Utf8.encode "hello".toList) 0, 0o644⟩)]⟩, .superuser, []⟩

def circumstances : Circumstances := ⟨[], [], []⟩

def get (target : String) : Request :=
  ⟨"GET".toList, target.toList, [], none, "http".toList, []⟩

/-- The page is asked for, its directory is taken away and put back with another page. -/
def restored : List App.Step :=
  [.request (get "/"), .edit (.remove ["pub".toList]), .request (get "/none"), .startup,
    .edit (.makeDirectory ["pub".toList]), .request (get "/"),
    .edit (.write ["pub".toList, App.indexName] (Utf8.encode "bye".toList) 0)]

/-- The new page is answered alike with requests before it and without. -/
theorem answered_alone_restored :
    (App.run circumstances ⟨vantage, site, false⟩
        (App.Step.edit (.remove ["pub".toList]) :: App.Step.edit (.makeDirectory ["pub".toList]) ::
          App.Step.edit (.write ["pub".toList, App.indexName] (Utf8.encode "bye".toList) 0) ::
          [.request (get "/")]))[3]? =
      (App.run circumstances ⟨vantage, site, false⟩ (restored ++ [.request (get "/")]))[7]? := by
  have hcreate : App.create settings = .ok site := by decide +kernel
  have hroot : (vantage.applyAll (App.edits restored)).HasDirectory settings.rootDir :=
    ⟨⟨.directory, 0o755⟩, by decide +kernel, rfl⟩
  exact (App.answered_alone hcreate hroot false circumstances (get "/") []).2
    [.edit (.remove ["pub".toList]), .edit (.makeDirectory ["pub".toList]),
      .edit (.write ["pub".toList, App.indexName] (Utf8.encode "bye".toList) 0)] [] rfl

/-- The page is asked for, and a file takes the place of its directory. -/
def replaced : List App.Step :=
  [.request (get "/"), .edit (.remove ["pub".toList]),
    .edit (.write ["pub".toList] (Utf8.encode "secret".toList) 0)]

/-- The directory is gone, yet this is not reported: the file in its place is sent. -/
theorem not_reportsRoot_replaced :
    let stage := App.after circumstances ⟨vantage, site, false⟩ replaced
    let answer := (stage.app.handle stage.vantage circumstances (get "/")).2
    site.Below (get "/") ∧ stage.vantage.LacksDirectory settings.rootDir ∧ ¬ answer.ReportsRoot ∧
      answer.response.body = Utf8.encode "secret".toList := by
  intro stage answer
  have hcreate : App.create settings = .ok site := by decide +kernel
  have hbelow : site.Below (get "/") := ⟨[], by decide +kernel⟩
  have hfound : site.FoundDuring vantage replaced :=
    ⟨[], get "/", _, rfl, hbelow, ⟨.directory, 0o755⟩, by decide +kernel, rfl⟩
  have hlacks : stage.vantage.LacksDirectory settings.rootDir :=
    Or.inr ⟨⟨.file (Utf8.encode "secret".toList) 0, 0o644⟩, by decide +kernel, rfl⟩
  obtain ⟨hreports, -⟩ :=
    App.reportsRoot_iff hcreate vantage false circumstances circumstances replaced (get "/")
  exact ⟨hbelow, hlacks, fun h => (hreports.mp h).2.1 hfound, by decide +kernel⟩

end PassingRoot

end StaticSite
