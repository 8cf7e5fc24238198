import StaticSite.Proofs.OneFileApart
import StaticSite.Proofs.Variables
import StaticSite.Server.Program

/-! The threshold of the log of a loaded program. It tells which lines are written and nothing else: in
trees that look alike to the site, two programs with the same settings but for the level answer every
step of a run alike, and each writes those of the lines of the run, in their order, that reach its
threshold. -/

namespace StaticSite

namespace App

variable {a : App} {v w : Vantage} {c : Circumstances}

/-! ### Levels in the settings -/

/-- The site whose settings name another level. -/
def withLevel (a : App) (level : Text) : App :=
  { a with settings := { a.settings with logLevel := level } }

theorem respond_withLevel (a : App) (level : Text) (v : Vantage) (boundary : Text) (r : Request) :
    (a.withLevel level).respond v boundary r =
      ((a.respond v boundary r).1.withLevel level, (a.respond v boundary r).2) := by
  have hmount : (a.withLevel level).mount = a.mount := rfl
  have hknown : (a.withLevel level).rootChecked = a.rootChecked := rfl
  have hroot : (a.withLevel level).settings.rootDir = a.settings.rootDir := rfl
  cases hmatch : a.mount.match? (routePath r.rootPath r.path) with
  | error count => simp only [respond, hmount, hmatch]
  | ok found =>
      cases found with
      | none =>
          simp only [respond, hmount, hmatch]
          rfl
      | some rest =>
          simp only [respond, hmount, hknown, hroot, hmatch]
          split
          · rfl
          · split <;> rfl

/-- No answer depends on the level, nor does what a site comes to know. -/
theorem handle_withLevel (a : App) (level : Text) (v : Vantage) (c : Circumstances) (r : Request) :
    (a.withLevel level).handle v c r = ((a.handle v c r).1.withLevel level, (a.handle v c r).2) := by
  simp only [handle, respond_withLevel]

/-! ### Runs -/

/-- One step, in two trees that look alike if it is a request, for two sites that differ in the level:
the same is seen, and they come to differ in no more. -/
theorem step_withLevel (level : Text) (begun : Bool) (x : Step)
    (h : ∀ r, x = .request r → a.SeesAlike v w r) :
    step c ⟨w, a.withLevel level, begun⟩ x =
      let (next, outcome) := step c ⟨v, a, begun⟩ x
      (⟨w.applyAll (edits [x]), next.app.withLevel level, next.begun⟩, outcome) := by
  cases x with
  | request r =>
      simp only [step, handle_withLevel, (h r rfl).handle_eq]
      rfl
  | _ => rfl

/-- A run shows the same of two sites that differ in the level, in trees that look alike. -/
theorem run_withLevel (level : Text) (begun : Bool) {steps : List Step}
    (h : a.SeesAlikeDuring v w steps) :
    run c ⟨w, a.withLevel level, begun⟩ steps = run c ⟨v, a, begun⟩ steps := by
  induction steps generalizing a v w begun with
  | nil => rfl
  | cons x rest ih =>
      obtain ⟨hhead, htail⟩ := seesAlikeDuring_cons.mp h
      have hstep := step_withLevel (c := c) level begun x hhead
      obtain ⟨hvantage, ⟨known, happ⟩, -⟩ := step_fst (c := c) ⟨v, a, begun⟩ x
      -- What the site has come to know by the step does not change what it will look up.
      have hnext := ih (step c ⟨v, a, begun⟩ x).1.begun (htail.known known)
      rw [← happ, ← hvantage] at hnext
      unfold run
      rw [hstep]
      exact congrArg (_ :: ·) hnext

/-! ### Levels of lines -/

theorem conclude_levels (c : Circumstances) (r : Request) (result : Except Failure Delivery) :
    ∀ line ∈ (conclude c r result).log, line.level = .info ∨ line.level = .error := by
  intro line hline
  cases hshown : r.shownPath with
  | error u =>
      rw [conclude_of_error hshown] at hline
      cases hline
  | ok shown =>
      cases result with
      | error e =>
          simp only [conclude, hshown, List.mem_singleton] at hline
          exact Or.inr (hline ▸ rfl)
      | ok d =>
          simp only [conclude, hshown, List.mem_singleton] at hline
          exact Or.inl (hline ▸ rfl)

/-- Each line of a step tells what happened or that a request failed. -/
theorem step_levels (s : Stage) (x : Step) :
    ∀ line ∈ (step c s x).2.log, line.level = .info ∨ line.level = .error := by
  intro line hline
  cases x with
  | edit e => cases hline
  | startup => exact Or.inl (List.mem_singleton.mp hline ▸ rfl)
  | shutdown =>
      cases hbegun : s.begun with
      | true =>
          simp only [step, hbegun, if_true, Outcome.log, List.mem_singleton] at hline
          exact Or.inl (hline ▸ rfl)
      | false => simp [step, hbegun, Outcome.log] at hline
  | request r => exact conclude_levels c r _ line hline
  | socket r =>
      simp only [step, socketOutcome] at hline
      split at hline <;> cases hline

theorem run_levels (s : Stage) (steps : List Step) :
    ∀ line ∈ (run c s steps).flatMap Outcome.log, line.level = .info ∨ line.level = .error := by
  induction steps generalizing s with
  | nil => exact nofun
  | cons x rest ih =>
      intro line hline
      rcases List.mem_append.mp hline with hline | hline
      · exact step_levels s x line hline
      · exact ih _ line hline

/-- The lines that are recorded of a run: those that tell what happens, and those above them. -/
def recorded (outcomes : List Outcome) : List LogLine :=
  LogLine.reaching .info (outcomes.flatMap Outcome.log)

/-- These are all lines of a run. -/
theorem recorded_run (s : Stage) (steps : List Step) :
    recorded (run c s steps) = (run c s steps).flatMap Outcome.log := by
  refine List.filter_eq_self.mpr fun line hline => ?_
  rcases run_levels s steps line hline with h | h <;> rw [h] <;> rfl

end App

/-! ### Loaded programs -/

/-- That settings differ in the level alone. -/
def Settings.SameButLevel (s t : Settings) : Prop :=
  { s with logLevel := t.logLevel } = t

theorem App.create_sameButLevel {s t : Settings} (h : s.SameButLevel t) {direct a : App}
    (hdirect : create s = .ok direct) (hcreate : create t = .ok a) :
    a = direct.withLevel t.logLevel := by
  rw [← h] at hcreate ⊢
  rw [create] at hdirect hcreate
  cases hmount : Mount.ofPrefix s.urlPrefix with
  | error e =>
      rw [hmount] at hdirect
      cases hdirect
  | ok mount =>
      rw [hmount] at hdirect hcreate
      cases hdirect
      cases hcreate
      rfl

namespace Program

/-- What loading leads to. -/
theorem load_eq_ok_iff {surroundings : Surroundings} {standard : Settings} {l : Loaded} :
    load surroundings standard = .ok l ↔
      Settings.load surroundings standard [] = .ok l.settings ∧
        Level.threshold l.settings.logLevel = .ok l.threshold ∧
          App.create l.settings = .ok l.app := by
  constructor
  · intro h
    unfold load at h
    split at h
    · cases h
    split at h
    · cases h
    split at h
    · cases h
    · cases h
      exact ⟨‹_›, ‹_›, ‹_›⟩
  · rintro ⟨hsettings, hthreshold, happ⟩
    simp only [load, hsettings, hthreshold, happ]

/-- A program with the settings of a site but for the level shows what the site shows, and of the lines
that are recorded of the site it writes those that reach its threshold. -/
theorem run_filters {surroundings : Surroundings} {standard : Settings} {l : Loaded}
    (hload : load surroundings standard = .ok l) {s : Settings} (hsame : s.SameButLevel l.settings)
    {direct : App} (hcreate : App.create s = .ok direct) {v w : Vantage} {steps : List App.Step}
    (halike : direct.SeesAlikeDuring v w steps) (c : Circumstances) :
    (l.run c w steps).map Prod.fst = App.run c ⟨v, direct, false⟩ steps ∧
      (l.run c w steps).flatMap Prod.snd =
        LogLine.reaching l.threshold (App.recorded (App.run c ⟨v, direct, false⟩ steps)) := by
  obtain ⟨-, -, happ⟩ := load_eq_ok_iff.mp hload
  have hrun : App.run c ⟨w, l.app, false⟩ steps = App.run c ⟨v, direct, false⟩ steps := by
    rw [App.create_sameButLevel hsame hcreate happ]
    exact App.run_withLevel _ false halike
  constructor
  · rw [Loaded.run, List.map_map, hrun]
    exact List.map_id _
  · rw [App.recorded_run, Loaded.run, List.flatMap_map, hrun]
    exact List.filter_flatMap.symm

/-- The level filters and nothing else. In trees that look alike to it, a site that is loaded with one
level or another, or made directly, shows the same at every step of a run, and with each level those
lines are written, in their order, that are recorded of the site and reach the threshold. -/
theorem level_filters {surroundings surroundings' : Surroundings} {standard : Settings}
    {l l' : Loaded} (hload : load surroundings standard = .ok l)
    (hload' : load surroundings' standard = .ok l') {s : Settings}
    (hsame : s.SameButLevel l.settings) (hsame' : s.SameButLevel l'.settings) {direct : App}
    (hcreate : App.create s = .ok direct) {v : Vantage} {steps : List App.Step}
    (halike : direct.SeesAlikeDuring v surroundings.vantage steps)
    (halike' : direct.SeesAlikeDuring v surroundings'.vantage steps) (c : Circumstances) :
    let seen := App.run c ⟨v, direct, false⟩ steps
    let shown := l.run c surroundings.vantage steps
    let shown' := l'.run c surroundings'.vantage steps
    shown.map Prod.fst = seen ∧ shown'.map Prod.fst = seen ∧
      shown.flatMap Prod.snd = LogLine.reaching l.threshold (App.recorded seen) ∧
      shown'.flatMap Prod.snd = LogLine.reaching l'.threshold (App.recorded seen) := by
  obtain ⟨hseen, hlines⟩ := run_filters hload hsame hcreate halike c
  obtain ⟨hseen', hlines'⟩ := run_filters hload' hsame' hcreate halike' c
  exact ⟨hseen, hseen', hlines, hlines'⟩

end Program

/-! ### Two levels in a file -/

namespace TwoLevels

open PassingRoot

def file : Location :=
  [".env".toList]

/-- A file that tells where the site is, and a level. -/
def content (root level : String) : List UInt8 :=
  Utf8.encode ("STATIC_SERVER_ROOT_DIR=".toList ++ root.toList ++ "\nSTATIC_SERVER_LOG_LEVEL=".toList ++
    level.toList ++ "\n".toList)

def surroundings (root level : String) : Surroundings where
  vantage := vantage.withFiles (vantage.files.refile file (content root level) 0 0o644)
  environment := []
  homes := ⟨[], []⟩

def settings (root level : String) : Settings :=
  { Settings.standard root.toList with logLevel := level.toList }

def loaded (root level : String) (threshold : Level) : Program.Loaded :=
  ⟨settings root level, threshold, ⟨settings root level, ⟨[]⟩, false⟩⟩

/-- Each request is answered and logged without the file that holds the level. -/
def steps : List App.Step :=
  [.startup, .request (get "/"), .edit (.write ["pub".toList, ['x']] [] 0), .request (get "/x")]

theorem seesAlike {v : Vantage} {gs : FileSystem} {r : Request}
    (h : FileSystem.isApartAt file v.files gs = true) (hroot : v.HasDirectory "pub".toList)
    (hspares : ∀ p ∈ site.lookedUp r, Site.isSparing file v ["pub".toList] p = true ∧
      Site.isSparing file (v.withFiles gs) ["pub".toList] p = true) :
    site.SeesAlike v (v.withFiles gs) r :=
  App.seesAlike_apart (FileSystem.apartAt_of_isApartAt h) hroot
    ⟨fun p hp => Site.spares_of_isSparing (hspares p hp).1,
      fun p hp => Site.spares_of_isSparing (hspares p hp).2⟩

theorem seesAlikeDuring {level : String} (h : level ∈ ["debug", "critical"]) :
    site.SeesAlikeDuring vantage (surroundings "pub" level).vantage steps := by
  have hroot : ∀ w : Vantage, w.stat ["pub".toList] = .ok ⟨.directory, 0o755⟩ →
      w.HasDirectory "pub".toList := fun w h => ⟨_, h, rfl⟩
  simp only [steps, App.seesAlikeDuring_cons]
  refine ⟨nofun, ?_, nofun, ?_, App.seesAlikeDuring_nil⟩
  all_goals
    rintro r ⟨⟩
    simp only [List.mem_cons, List.not_mem_nil, or_false] at h
    rcases h with rfl | rfl
    all_goals exact seesAlike (by decide +kernel) (hroot _ (by decide +kernel)) (by decide +kernel)

theorem load_eq {root level : String} {threshold : Level}
    (hload : (Settings.load (surroundings root level) (.standard []) []).toOption =
      some (settings root level))
    (hthreshold : Level.threshold level.toList = .ok threshold) :
    Program.load (surroundings root level) (.standard []) = .ok (loaded root level threshold) :=
  have hmount : Mount.ofPrefix (settings root level).urlPrefix = .ok ⟨[]⟩ :=
    (by decide +kernel : Mount.ofPrefix ['/'] = .ok ⟨[]⟩)
  Program.load_eq_ok_iff.mpr ⟨ok_of_toOption hload, hthreshold, congrArg (Except.map _) hmount⟩

/-- Two requests are answered alike at either level. At the one, the beginning and both requests are
written down, at the other nothing is. -/
theorem level_filters_apart :
    let l := loaded "pub" "debug" .debug
    let l' := loaded "pub" "critical" .critical
    let shown := l.run circumstances (surroundings "pub" "debug").vantage steps
    let shown' := l'.run circumstances (surroundings "pub" "critical").vantage steps
    shown.map Prod.fst = shown'.map Prod.fst ∧ (shown.flatMap Prod.snd).length = 3 ∧
      shown'.flatMap Prod.snd = [] := by
  intro l l' shown shown'
  have hload : Program.load (surroundings "pub" "debug") (.standard []) = .ok l :=
    load_eq (by decide +kernel) (by decide +kernel)
  have hload' : Program.load (surroundings "pub" "critical") (.standard []) = .ok l' :=
    load_eq (by decide +kernel) (by decide +kernel)
  have hcreate : App.create PassingRoot.settings = .ok site := by
    decide +kernel
  obtain ⟨hseen, hseen', hlines, hlines'⟩ := Program.level_filters hload hload' rfl rfl hcreate
    (seesAlikeDuring (by decide)) (seesAlikeDuring (by decide)) circumstances
  refine ⟨hseen.trans hseen'.symm, ?_, ?_⟩
  · rw [hlines]
    decide +kernel
  · rw [hlines']
    decide +kernel

/-- A request for the file itself, from a place behind its end. -/
def asked : List App.Step :=
  [.request { get "/.env" with headers := [("range".toList, "bytes=9999-".toList)] }]

/-- A site that stands where the file does refuses the range with the size of the file, which is another
with another level, and the site that is made directly finds no file. So they do not answer alike, and
the line that is written is not the one that is recorded. -/
theorem not_level_filters :
    let l := loaded "." "debug" .debug
    let l' := loaded "." "critical" .critical
    let shown := l.run circumstances (surroundings "." "debug").vantage asked
    let shown' := l'.run circumstances (surroundings "." "critical").vantage asked
    let seen := App.run circumstances ⟨vantage, l.app, false⟩ asked
    Program.load (surroundings "." "debug") (.standard []) = .ok l ∧
      Program.load (surroundings "." "critical") (.standard []) = .ok l' ∧
      l.settings.SameButLevel l'.settings ∧ App.create l.settings = .ok l.app ∧
      shown.map Prod.fst ≠ shown'.map Prod.fst ∧
      shown.flatMap Prod.snd ≠ LogLine.reaching l.threshold (App.recorded seen) := by
  intro l l' shown shown' seen
  have hload : Program.load (surroundings "." "debug") (.standard []) = .ok l :=
    load_eq (by decide +kernel) (by decide +kernel)
  have hload' : Program.load (surroundings "." "critical") (.standard []) = .ok l' :=
    load_eq (by decide +kernel) (by decide +kernel)
  exact ⟨hload, hload', rfl, (Program.load_eq_ok_iff.mp hload).2.2, by decide +kernel,
    by decide +kernel⟩

end TwoLevels

end StaticSite
