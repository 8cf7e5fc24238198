import StaticSite.Proofs.Agreement
import StaticSite.Proofs.Material

/-! Answers in trees that differ only in hidden files. Look-ups find the same places, so an answer is
made of the same material, except that a file which is sent may hold something else. Where the file
that is sent is not hidden, the answers are the same. -/

namespace StaticSite

variable {hidden : Location → Prop} {gs : FileSystem} {v : Vantage}

namespace Vantage

/-- No hidden file is found by a path. -/
def Shows (v : Vantage) (hidden : Location → Prop) (p : Path) : Prop :=
  ∀ q, v.locate true p = .ok q → ¬ hidden q

variable (h : v.files.AgreeExcept hidden gs)

include h

theorem read_withFiles {p : Path} (hp : v.Shows hidden p) :
    (v.withFiles gs).read p = v.read p := by
  rw [read, read]
  cases he : v.stat p with
  | error e => rw [stat_withFiles_error h he]; rfl
  | ok e =>
      obtain ⟨d, hd, -, hsame⟩ := stat_withFiles_ok h he
      rw [hd, hsame hp]
      rfl

end Vantage

/-! ### Look-ups -/

namespace Site

variable (h : v.files.AgreeExcept hidden gs)

include h

theorem statPlace_withFiles_some {place : Location} {found : Found}
    (hfound : statPlace v place = .ok (some found)) :
    ∃ entry, statPlace (v.withFiles gs) place = .ok (some ⟨found.place, entry⟩) ∧
      found.entry.Alike entry ∧
      (v.Shows hidden (Location.path found.place) → entry = found.entry) := by
  unfold statPlace at hfound
  split at hfound
  · rename_i e he
    cases hfound
    obtain ⟨d, hd, hed, hsame⟩ := Vantage.stat_withFiles_ok h he
    refine ⟨d, ?_, hed, hsame⟩
    rw [statPlace, hd]
  all_goals cases hfound

theorem statPlace_withFiles_of_ne {place : Location}
    (hne : ∀ found, statPlace v place ≠ .ok (some found)) :
    statPlace (v.withFiles gs) place = statPlace v place := by
  cases he : v.stat (Location.path place) with
  | ok e => exact absurd (by rw [statPlace, he]) (hne ⟨place, e⟩)
  | error e => rw [statPlace, statPlace, he, Vantage.stat_withFiles_error h he]

/-- What is found in one tree is found at the same place in the other. -/
theorem lookup_withFiles_some {root p : Path} {found : Found}
    (hfound : lookup v root p = .ok (some found)) :
    ∃ entry, lookup (v.withFiles gs) root p = .ok (some ⟨found.place, entry⟩) ∧
      found.entry.Alike entry ∧
      (v.Shows hidden (Location.path found.place) → entry = found.entry) := by
  unfold lookup at hfound ⊢
  rw [Vantage.realPath_withFiles h, Vantage.realPath_withFiles h]
  split at hfound
  · cases hfound
  rename_i hbackslash
  rw [if_neg hbackslash]
  split at hfound
  · split at hfound
    · rename_i hprefix
      rw [if_pos hprefix]
      exact statPlace_withFiles_some h hfound
    · cases hfound
  all_goals cases hfound

theorem lookup_withFiles_of_ne {root p : Path}
    (hne : ∀ found, lookup v root p ≠ .ok (some found)) :
    lookup (v.withFiles gs) root p = lookup v root p := by
  unfold lookup at hne ⊢
  rw [Vantage.realPath_withFiles h, Vantage.realPath_withFiles h]
  split
  · rfl
  rename_i hbackslash
  rw [if_neg hbackslash] at hne
  split
  · rename_i place top hplace htop
    simp only [hplace, htop] at hne
    split
    · rename_i hprefix
      rw [if_pos hprefix] at hne
      exact statPlace_withFiles_of_ne h hne
    · rfl
  all_goals rfl

theorem lookup_withFiles_none {root p : Path} (hfound : lookup v root p = .ok none) :
    lookup (v.withFiles gs) root p = .ok none := by
  rw [lookup_withFiles_of_ne h (by rw [hfound]; intro _ h; cases h), hfound]

theorem lookup_withFiles_error {root p : Path} {e : Failure} (hfound : lookup v root p = .error e) :
    lookup (v.withFiles gs) root p = .error e := by
  rw [lookup_withFiles_of_ne h (by rw [hfound]; intro _ h; cases h), hfound]

theorem checkRoot_withFiles (root : Text) : checkRoot (v.withFiles gs) root = checkRoot v root := by
  rw [checkRoot, checkRoot]
  cases he : v.stat (Path.ofText root) with
  | error e => rw [Vantage.stat_withFiles_error h he]
  | ok e =>
      obtain ⟨d, hd, hed, -⟩ := Vantage.stat_withFiles_ok h he
      rw [hd]
      simp only [hed.isDirectory_eq]

end Site

/-! ### Material -/

/-- Material of one kind, from the same place: only what a hidden file holds may differ. -/
inductive Material.Alike (hidden : Location → Prop) (v : Vantage) : Material → Material → Prop
  | refl (m : Material) : Alike hidden v m m
  | file (s : Source) (content : List UInt8) (modified : Int)
      (shown : v.Shows hidden (Location.path s.place) →
        content = s.content ∧ modified = s.modified) :
      Alike hidden v (.file s) (.file { s with content, modified })

theorem Material.Alike.ofFound {p : Path} {found : Found} {entry : Entry} {isPage : Bool}
    {otherwise otherwise' : Material} (hentry : Entry.Alike found.entry entry)
    (hsame : v.Shows hidden (Location.path found.place) → entry = found.entry)
    (hotherwise : otherwise.Alike hidden v otherwise') :
    (ofFound p found isPage otherwise).Alike hidden v
      (ofFound p ⟨found.place, entry⟩ isPage otherwise') := by
  obtain ⟨place, e⟩ := found
  simp only at hentry hsame ⊢
  cases hentry with
  | file content content' modified modified' mode =>
      refine .file ⟨p, place, content, modified, isPage⟩ content' modified' fun hshown => ?_
      have := hsame hshown
      simp only [Entry.mk.injEq, Node.file.injEq] at this
      exact this.1
  | refl =>
      obtain ⟨node, mode⟩ := entry
      cases node with
      | file content modified => exact .refl _
      | _ => exact hotherwise

/-- Material is the same where it is made from no hidden file. -/
theorem Material.Alike.eq_of_shows {m m' : Material} (h : m.Alike hidden v m')
    (hm : ∀ s, m = .file s → v.Shows hidden (Location.path s.place)) : m' = m := by
  cases h with
  | refl => rfl
  | file s content modified hcontent =>
      obtain ⟨rfl, rfl⟩ := hcontent (hm s rfl)
      rfl

theorem Material.Alike.exists_file {s : Source} {m : Material}
    (h : Material.Alike hidden v (.file s) m) :
    ∃ content modified, m = .file { s with content, modified } := by
  cases h with
  | refl => exact ⟨s.content, s.modified, rfl⟩
  | file _ content modified _ => exact ⟨content, modified, rfl⟩

namespace App

variable (h : v.files.AgreeExcept hidden gs) (a : App) (r : Request)

include h

theorem missingMaterial_withFiles :
    (a.missingMaterial v r).Alike hidden v (a.missingMaterial (v.withFiles gs) r) := by
  unfold missingMaterial
  split
  · cases hfound : Site.lookup v a.rootPath [missingName] with
    | error e =>
        rw [Site.lookup_withFiles_error h hfound]
        exact .refl _
    | ok found =>
        cases found with
        | none =>
            rw [Site.lookup_withFiles_none h hfound]
            exact .refl _
        | some found =>
            obtain ⟨entry, hentry, halike, hsame⟩ := Site.lookup_withFiles_some h hfound
            rw [hentry]
            exact .ofFound halike hsame (.refl _)
  · exact .refl _

theorem directoryMaterial_withFiles (p : Path) :
    (a.directoryMaterial v r p).Alike hidden v (a.directoryMaterial (v.withFiles gs) r p) := by
  unfold directoryMaterial
  split
  · cases hfound : Site.lookup v a.rootPath (p ++ [indexName]) with
    | error e =>
        rw [Site.lookup_withFiles_error h hfound]
        exact .refl _
    | ok found =>
        cases found with
        | none =>
            rw [Site.lookup_withFiles_none h hfound]
            exact missingMaterial_withFiles h a r
        | some found =>
            obtain ⟨entry, hentry, halike, hsame⟩ := Site.lookup_withFiles_some h hfound
            rw [hentry]
            simp only [halike.isFile_eq]
            split
            · exact .refl _
            · exact .ofFound halike hsame (missingMaterial_withFiles h a r)
  · exact missingMaterial_withFiles h a r

theorem contentMaterial_withFiles (p : Path) :
    (a.contentMaterial v r p).Alike hidden v (a.contentMaterial (v.withFiles gs) r p) := by
  unfold contentMaterial
  cases hfound : Site.lookup v a.rootPath p with
  | error e =>
      rw [Site.lookup_withFiles_error h hfound]
      cases e <;> exact .refl _
  | ok found =>
      cases found with
      | none =>
          rw [Site.lookup_withFiles_none h hfound]
          exact missingMaterial_withFiles h a r
      | some found =>
          obtain ⟨entry, hentry, halike, hsame⟩ := Site.lookup_withFiles_some h hfound
          rw [hentry]
          simp only [halike.isDirectory_eq]
          split
          · exact directoryMaterial_withFiles h a r p
          · exact .ofFound halike hsame (missingMaterial_withFiles h a r)

/-- An answer is made of alike material in both trees. -/
theorem material_withFiles : (a.material v r).Alike hidden v (a.material (v.withFiles gs) r) := by
  have hinside : ∀ route rest,
      (a.insideMaterial v r route rest).Alike hidden v
        (a.insideMaterial (v.withFiles gs) r route rest) := by
    intro route rest
    unfold insideMaterial
    split
    · exact contentMaterial_withFiles h a r _
    · exact .refl _
  unfold material
  rw [Site.checkRoot_withFiles h]
  split
  · exact .refl _
  · exact .refl _
  · split
    · exact hinside _ _
    · split
      · exact .refl _
      · exact hinside _ _

/-- The site after a request is the same in both trees. -/
theorem handle_fst_withFiles (c : Circumstances) :
    (a.handle (v.withFiles gs) c r).1 = (a.handle v c r).1 := by
  rw [handle, handle]
  simp only [respond]
  rw [Site.checkRoot_withFiles h]
  cases a.mount.match? (routePath r.rootPath r.path) with
  | error count => rfl
  | ok found =>
      cases found with
      | none => rfl
      | some rest =>
          simp only
          split
          · rfl
          · cases Site.checkRoot v a.settings.rootDir <;> rfl

end App

end StaticSite
