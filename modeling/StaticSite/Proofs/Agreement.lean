import StaticSite.FileSystem.RealPath
import StaticSite.Site.Lookup

/-! Trees that differ only in what some regular files hold and when they were last changed. Following
a path asks for the kind and the permission bits of what it meets and never for the content of a
file, so such trees are walked alike, their links are found and resolved alike, and they differ only
in the entries of these files. -/

namespace StaticSite

/-- Entries of one kind and with the same permission bits: they are the same, or both are regular
files. -/
inductive Entry.Alike : Entry → Entry → Prop
  | refl (e : Entry) : Alike e e
  | file (content content' : List UInt8) (modified modified' : Int) (mode : Nat) :
      Alike ⟨.file content modified, mode⟩ ⟨.file content' modified', mode⟩

namespace Entry.Alike

theorem isDirectory_eq {e d : Entry} (h : e.Alike d) : d.isDirectory = e.isDirectory := by
  cases h <;> rfl

theorem isFile_eq {e d : Entry} (h : e.Alike d) : d.isFile = e.isFile := by
  cases h <;> rfl

theorem allows_eq {e d : Entry} (h : e.Alike d) (caller : Caller) (bit : Nat) :
    d.allows caller bit = e.allows caller bit := by
  cases h <;> rfl

end Entry.Alike

/-- Two trees that hold the same, but for the content and the time of regular files at hidden
locations. The number of links, which bounds how deeply they are resolved, is the same too. -/
structure FileSystem.AgreeExcept (hidden : Location → Prop) (fs gs : FileSystem) : Prop where
  alike : ∀ l, Option.Rel Entry.Alike (fs.find? l) (gs.find? l)
  same : ∀ l, ¬ hidden l → gs.find? l = fs.find? l
  linkCount : gs.linkCount = fs.linkCount

variable {hidden : Location → Prop} {fs gs : FileSystem}

namespace FileSystem.AgreeExcept

/-- What the other tree holds where one holds something. -/
theorem find?_some (h : fs.AgreeExcept hidden gs) {l : Location} {e : Entry}
    (he : fs.find? l = some e) : ∃ d, gs.find? l = some d ∧ e.Alike d := by
  have hl := h.alike l
  rw [he] at hl
  cases hg : gs.find? l with
  | none => rw [hg] at hl; cases hl
  | some d =>
      rw [hg] at hl
      cases hl with
      | some hed => exact ⟨d, rfl, hed⟩

theorem find?_none (h : fs.AgreeExcept hidden gs) {l : Location} (he : fs.find? l = none) :
    gs.find? l = none := by
  have hl := h.alike l
  rw [he] at hl
  cases hg : gs.find? l with
  | none => rfl
  | some d => rw [hg] at hl; cases hl

theorem checkDirectory_eq (h : fs.AgreeExcept hidden gs) (caller : Caller) (place : Location)
    (part : Text) : gs.checkDirectory caller place part = fs.checkDirectory caller place part := by
  cases hf : fs.find? place with
  | none => simp only [checkDirectory, hf, h.find?_none hf]
  | some e =>
      obtain ⟨d, hd, hed⟩ := h.find?_some hf
      simp only [checkDirectory, hf, hd, hed.isDirectory_eq, hed.allows_eq]

/-- Walking asks for no content: with jumps that agree, so do the walks. -/
theorem walkWith_eq (h : fs.AgreeExcept hidden gs) (caller : Caller) (followLast : Bool)
    {jump jump' : Location → Path → Except SystemError Location}
    (hjump : ∀ place path, jump' place path = jump place path) (place : Location) (path : Path) :
    gs.walkWith caller followLast jump' place path =
      fs.walkWith caller followLast jump place path := by
  induction path generalizing place with
  | nil => rfl
  | cons part rest ih =>
      rw [walkWith, walkWith, h.checkDirectory_eq]
      cases fs.checkDirectory caller place part with
      | error e => rfl
      | ok _ =>
          simp only [ih]
          cases hf : fs.find? (place ++ [part]) with
          | none => rw [h.find?_none hf]
          | some e =>
              obtain ⟨d, hd, hed⟩ := h.find?_some hf
              rw [hd]
              cases hed with
              | file => rfl
              | refl => simp only [hjump]

theorem walk_eq (h : fs.AgreeExcept hidden gs) (caller : Caller) (followLast : Bool) (links : Nat)
    (place : Location) (path : Path) :
    gs.walk caller followLast links place path = fs.walk caller followLast links place path := by
  induction links generalizing place path with
  | zero => exact h.walkWith_eq caller followLast (fun _ _ => rfl) place path
  | succ links ih => exact h.walkWith_eq caller followLast ih place path

end FileSystem.AgreeExcept

namespace Vantage

/-- A process that sees other files from where it stands. -/
def withFiles (v : Vantage) (files : FileSystem) : Vantage :=
  { v with files }

/-! ### Links -/

section Links

variable {v w : Vantage} (hlinks : ∀ place, w.linkAt? place = v.linkAt? place)

include hlinks

/-- A resolution depends on the tree only by the links that are seen. -/
theorem resolveWith_congr {follow follow' : Met → Location → Path → Except PathError Resolution}
    (hfollow : ∀ met place path, follow' met place path = follow met place path)
    (met : Met) (place : Location) (path : Path) :
    w.resolveWith follow' met place path = v.resolveWith follow met place path := by
  induction path generalizing met place with
  | nil => rfl
  | cons part rest ih => simp only [resolveWith, hlinks, hfollow, ih]

theorem resolve_congr (depth : Nat) (met : Met) (place : Location) (path : Path) :
    w.resolve depth met place path = v.resolve depth met place path := by
  induction depth generalizing met place path with
  | zero => exact resolveWith_congr hlinks (fun _ _ _ => rfl) met place path
  | succ depth ih => exact resolveWith_congr hlinks ih met place path

theorem realPath_congr (hcount : w.files.linkCount = v.files.linkCount)
    (hworking : w.workingDirectory = v.workingDirectory) (p : Path) :
    w.realPath p = v.realPath p := by
  simp only [realPath, resolve_congr hlinks, hcount, start, hworking]

end Links

/-! ### What a process sees -/

variable {v : Vantage} (h : v.files.AgreeExcept hidden gs)

include h

theorem locate_withFiles (followLast : Bool) (p : Path) :
    (v.withFiles gs).locate followLast p = v.locate followLast p := by
  simp only [locate, withFiles, start, h.walk_eq]

theorem linkAt?_withFiles (place : Location) : (v.withFiles gs).linkAt? place = v.linkAt? place := by
  rw [linkAt?, linkAt?, locate_withFiles h]
  cases v.locate false (Location.path place) with
  | error e => rfl
  | ok found =>
      simp only [withFiles]
      cases hf : v.files.find? found with
      | none => rw [h.find?_none hf]
      | some e =>
          obtain ⟨d, hd, hed⟩ := h.find?_some hf
          rw [hd]
          cases hed <;> rfl

theorem realPath_withFiles (p : Path) : (v.withFiles gs).realPath p = v.realPath p :=
  realPath_congr (linkAt?_withFiles h) h.linkCount rfl p

/-- The entry that a path leads to is the same, or both are regular files at a hidden location. -/
theorem stat_withFiles_ok {p : Path} {e : Entry} (he : v.stat p = .ok e) :
    ∃ d, (v.withFiles gs).stat p = .ok d ∧ e.Alike d ∧
      ((∀ q, v.locate true p = .ok q → ¬ hidden q) → d = e) := by
  simp only [stat, locate_withFiles h] at he ⊢
  cases hq : v.locate true p with
  | error _ => rw [hq] at he; cases he
  | ok q =>
      rw [hq] at he
      simp only [bind, Except.bind, withFiles] at he ⊢
      cases hf : v.files.find? q with
      | none => rw [hf] at he; cases he
      | some e' =>
          rw [hf] at he
          cases he
          obtain ⟨d, hd, hed⟩ := h.find?_some hf
          refine ⟨d, by rw [hd], hed, fun hq' => ?_⟩
          have := h.same q (hq' q rfl)
          rw [hd, hf] at this
          exact Option.some.inj this

theorem stat_withFiles_error {p : Path} {e : PathError} (he : v.stat p = .error e) :
    (v.withFiles gs).stat p = .error e := by
  simp only [stat, locate_withFiles h] at he ⊢
  cases hq : v.locate true p with
  | error _ => rw [hq] at he; exact he
  | ok q =>
      rw [hq] at he
      simp only [bind, Except.bind, withFiles] at he ⊢
      cases hf : v.files.find? q with
      | none => rw [hf] at he; rw [h.find?_none hf]; exact he
      | some e' => rw [hf] at he; cases he

end Vantage

end StaticSite
