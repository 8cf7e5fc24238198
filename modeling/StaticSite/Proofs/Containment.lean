import StaticSite.Proofs.MaterialAgreement
import StaticSite.Proofs.Resolution

/-! Containment. What lies outside the directory of a site can show in an answer in one way only:
the answer is made from a file whose path, found to lie in the directory, leads elsewhere when it is
opened. A real path does so only where its search was cut short by a link that leads into itself. -/

namespace StaticSite

variable {hidden : Location → Prop} {gs : FileSystem} {v w : Vantage}

/-! ### Sending a file that is shown -/

namespace FileResponse

theorem deliver_congr {place : Location}
    (h : w.read (Location.path place) = v.read (Location.path place)) (headOnly : Bool)
    (status : Status) (headers : Headers) (body : List UInt8 → List UInt8) :
    deliver w place headOnly status headers body = deliver v place headOnly status headers body := by
  rw [deliver, deliver, h]

theorem whole_congr {place : Location}
    (h : w.read (Location.path place) = v.read (Location.path place)) (d : Description)
    (headOnly : Bool) (status : Status) :
    whole w place d headOnly status = whole v place d headOnly status := by
  rw [whole, whole, deliver_congr h]

/-- An answer depends on the tree only by what is read of the file. -/
theorem answer_congr {place : Location}
    (h : w.read (Location.path place) = v.read (Location.path place)) (d : Description)
    (headOnly : Bool) (boundary : Text) (request : Headers) :
    answer w place d headOnly boundary request = answer v place d headOnly boundary request := by
  have hparts : ∀ ranges, parts w place d headOnly boundary ranges =
      parts v place d headOnly boundary ranges := by
    intro ranges
    rw [parts.eq_def, parts.eq_def]
    simp only [deliver_congr h, whole_congr h]
  simp only [answer, hparts, whole_congr h]

end FileResponse

theorem Material.result_withFiles (h : v.files.AgreeExcept hidden gs) {m : Material}
    (hm : ∀ s, m = .file s → v.Shows hidden (Location.path s.place)) (boundary : Text)
    (r : Request) : m.result (v.withFiles gs) boundary r = m.result v boundary r := by
  cases m with
  | fixed result => rfl
  | file s =>
      have hread := Vantage.read_withFiles h (hm s rfl)
      simp only [result, FileResponse.answer_congr hread, FileResponse.whole_congr hread]

/-! ### What is sent -/

/-- Whether a location is not in the directory of a site. -/
def Site.Outside (v : Vantage) (root : Path) (l : Location) : Prop :=
  ∀ top, v.realPath root = .ok top → ¬ top <+: l

/-- A request is answered from a file that is opened at a location. A request whose path cannot be
told is answered without any file, whatever was found for it. -/
structure App.Sends (a : App) (v : Vantage) (r : Request) (s : Source) (q : Location) : Prop where
  shown : ∃ shown, r.shownPath = .ok shown
  material : a.material v r = .file s
  opened : v.locate true (Location.path s.place) = .ok q

namespace App

variable {a : App} {r : Request}

/-- Where no hidden file is sent, the answer is the same whatever hidden files hold. -/
theorem handle_withFiles (h : v.files.AgreeExcept hidden gs)
    (hsends : ∀ s q, a.Sends v r s q → ¬ hidden q) (c : Circumstances) :
    a.handle (v.withFiles gs) c r = a.handle v c r := by
  refine Prod.ext (handle_fst_withFiles h a r c) ?_
  rw [handle_snd, handle_snd]
  cases hshown : r.shownPath with
  | error u => rw [conclude_of_error hshown, conclude_of_error hshown]
  | ok shown =>
      have hm : ∀ s, a.material v r = .file s → v.Shows hidden (Location.path s.place) :=
        fun s hs q hq => hsends s q ⟨⟨shown, hshown⟩, hs, hq⟩
      rw [(material_withFiles h a r).eq_of_shows hm, Material.result_withFiles h hm]

/-- A file is sent from outside the directory of a site only where the resolution of its path is cut
short. -/
theorem cutShort_of_sends_outside {s : Source} {q : Location} (hground : v.Grounded)
    (hsends : a.Sends v r s q) (hq : Site.Outside v a.rootPath q) :
    v.CutShort (a.rootPath ++ s.path) := by
  refine Classical.byContradiction fun hcut => ?_
  have hfound := a.foundIn_of_material v r hsends.material
  obtain ⟨top, htop, hinside⟩ := hfound.inside
  have hplace := Vantage.locate_realPath hground hfound.realPath hcut hsends.opened
  exact hq top htop (hplace ▸ hinside)

end App

/-! ### Telling trees apart -/

namespace FileSystem

/-- The tree with a file of other content or time at a location. -/
def refile (fs : FileSystem) (l : Location) (content : List UInt8) (modified : Int) (mode : Nat) :
    FileSystem :=
  ⟨(l, ⟨.file content modified, mode⟩) :: fs.entries⟩

variable {fs : FileSystem} {l : Location} {content : List UInt8} {modified : Int} {mode : Nat}

theorem find?_refile (hl : l ≠ []) (l' : Location) :
    (fs.refile l content modified mode).find? l' =
      if l' = l then some ⟨.file content modified, mode⟩ else fs.find? l' := by
  cases l' with
  | nil => rw [if_neg (Ne.symm hl)]; rfl
  | cons name rest =>
      rw [find?, refile, List.lookup_cons]
      by_cases h : name :: rest = l
      · rw [if_pos h, beq_iff_eq.mpr h]
      · rw [if_neg h, beq_eq_false_iff_ne.mpr h]
        rfl

theorem agreeExcept_refile (content' : List UInt8) (modified' : Int)
    (he : fs.find? l = some ⟨.file content modified, mode⟩) (hl : hidden l) :
    fs.AgreeExcept hidden (fs.refile l content' modified' mode) := by
  have hne : l ≠ [] := by
    rintro rfl
    cases he
  refine ⟨fun l' => ?_, fun l' hl' => ?_, rfl⟩
  · rw [find?_refile hne]
    by_cases h : l' = l
    · rw [if_pos h, h, he]
      exact .some (.file _ _ _ _ _)
    · rw [if_neg h]
      cases fs.find? l' with
      | none => exact .none
      | some e => exact .some (.refl e)
  · rw [find?_refile hne, if_neg fun h : l' = l => hl' (h ▸ hl)]

end FileSystem

/-- Whether a time of modification is one that a date can name. -/
def Validator.nameable (modified : Int) : Bool :=
  (timeText (seconds modified)).isOk

/-- The time at which the first year begins that no date can name. -/
def Validator.endOfDates : Int := 253402300800000000000

theorem Validator.nameable_zero : nameable 0 = true := by
  decide +kernel

theorem Validator.nameable_endOfDates : nameable endOfDates = false := by
  decide +kernel

theorem Validator.ofFile_isOk (modified : Int) (size : Nat) :
    (ofFile modified size).isOk = nameable modified := by
  rw [ofFile, nameable]
  cases timeText (seconds modified) <;> rfl

namespace App

variable {a : App} {r : Request}

/-- Whether a date can name the time of a file that is sent is told by the answer. -/
theorem raised_year_iff {s : Source} (hshown : ∃ shown, r.shownPath = .ok shown)
    (hmat : a.material v r = .file s) (c : Circumstances) :
    (∃ year, (a.handle v c r).2.raised = some (.yearOutOfRange year)) ↔
      Validator.nameable s.modified = false := by
  obtain ⟨shown, hshown⟩ := hshown
  rw [handle_snd, hmat, ← Validator.ofFile_isOk _ s.content.length]
  simp only [Material.result, Material.describe]
  generalize Validator.ofFile s.modified s.content.length = validator
  cases validator with
  | error year =>
      simp only [mapError_error, Except.map, conclude, hshown]
      exact iff_of_true ⟨year, rfl⟩ rfl
  | ok validator =>
      simp only [mapError_ok, Except.map, conclude, hshown]
      refine iff_of_false ?_ Bool.false_ne_true.symm
      rintro ⟨year, h⟩
      split at h
      · obtain ⟨e, he⟩ := FileResponse.deliver_broken h
        cases e <;> cases he
      · obtain ⟨e, he⟩ := FileResponse.answer_broken h
        cases e <;> cases he

/-- What is sent is what stands at the location that is opened. -/
theorem Sends.find?_eq {s : Source} {q : Location} (h : a.Sends v r s q) :
    ∃ mode, v.files.find? q = some ⟨.file s.content s.modified, mode⟩ := by
  obtain ⟨mode, hstat⟩ := (a.foundIn_of_material v r h.material).entry
  obtain ⟨q', hq', he⟩ := Vantage.find?_of_stat hstat
  rw [h.opened] at hq'
  cases hq'
  exact ⟨mode, he⟩

/-- A file that is sent shows: with another time, the answer is another. -/
theorem exists_handle_ne {s : Source} {q : Location} (h : a.Sends v r s q) (hq : hidden q)
    (c : Circumstances) :
    ∃ gs, v.files.AgreeExcept hidden gs ∧ a.handle (v.withFiles gs) c r ≠ a.handle v c r := by
  obtain ⟨mode, he⟩ := h.find?_eq
  have hother : ∃ modified, Validator.nameable modified ≠ Validator.nameable s.modified := by
    cases Validator.nameable s.modified with
    | true => exact ⟨Validator.endOfDates, by simp [Validator.nameable_endOfDates]⟩
    | false => exact ⟨0, by simp [Validator.nameable_zero]⟩
  obtain ⟨modified, hmodified⟩ := hother
  have hagree := FileSystem.agreeExcept_refile s.content modified he hq
  refine ⟨_, hagree, fun heq => hmodified ?_⟩
  have halike := material_withFiles hagree a r
  rw [h.material] at halike
  obtain ⟨content', modified', hmat⟩ := halike.exists_file
  have hsends : a.Sends (v.withFiles (v.files.refile q s.content modified mode)) r
      { s with content := content', modified := modified' } q :=
    ⟨h.shown, hmat, (Vantage.locate_withFiles hagree true _).trans h.opened⟩
  have hne : q ≠ [] := by
    rintro rfl
    cases he
  obtain ⟨mode', he'⟩ := hsends.find?_eq
  have hsame := ((FileSystem.find?_refile hne q).trans (if_pos rfl)).symm.trans he'
  simp only [Option.some.injEq, Entry.mk.injEq, Node.file.injEq] at hsame
  have hyear := raised_year_iff h.shown h.material c
  have hyear' := raised_year_iff h.shown hmat c
  rw [heq, ← hsame.1.2] at hyear'
  have hiff := hyear'.symm.trans hyear
  cases hm : Validator.nameable modified <;> cases hs : Validator.nameable s.modified <;>
    simp [hm, hs] at hiff ⊢

/-- Answers do not depend on what lies outside the directory where the resolution of no path is cut
short. -/
theorem handle_contained (hground : v.Grounded) (hcut : ∀ p, ¬ v.CutShort (a.rootPath ++ p))
    (h : v.files.AgreeExcept (Site.Outside v a.rootPath) gs) (c : Circumstances) :
    a.handle (v.withFiles gs) c r = a.handle v c r :=
  handle_withFiles h
    (fun s _ hsends hq => hcut s.path (cutShort_of_sends_outside hground hsends hq)) c

end App

/-! ### A link that leads into itself -/

namespace LoopingLink

/-- A directory with a link to itself, a link to a file outside, and a link that passes the first on
its way to the second. -/
def files : FileSystem :=
  ⟨[(["pub".toList], ⟨.directory, 0o755⟩),
    (["secret.txt".toList], ⟨.file (Utf8.encode "outside the root".toList) 0, 0o644⟩),
    (["pub".toList, "loop".toList], ⟨.link "loop".toList, 0o777⟩),
    (["pub".toList, "b".toList], ⟨.link "../secret.txt".toList, 0o777⟩),
    (["pub".toList, "a".toList], ⟨.link "loop/../b".toList, 0o777⟩)]⟩

def vantage : Vantage := ⟨files, .superuser, []⟩

def site : App := ⟨Settings.standard "pub".toList, ⟨[]⟩, false⟩

def request : Request := ⟨"GET".toList, "/a".toList, [], none, "http".toList, []⟩

def circumstances : Circumstances := ⟨[], [], []⟩

/-- What is sent: the file outside, found to be the second link. -/
def source : Source :=
  ⟨[['a']], ["pub".toList, ['b']], Utf8.encode "outside the root".toList, 0, false⟩

theorem sends : site.Sends vantage request source ["secret.txt".toList] where
  shown := ⟨"/a".toList, by decide +kernel⟩
  material := by decide +kernel
  opened := by decide +kernel

theorem outside : Site.Outside vantage site.rootPath ["secret.txt".toList] := by
  intro top htop
  have hpub : vantage.realPath site.rootPath = .ok ["pub".toList] := by decide +kernel
  rw [hpub] at htop
  cases htop
  decide

end LoopingLink

end StaticSite
