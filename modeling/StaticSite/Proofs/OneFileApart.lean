import StaticSite.Proofs.AlikeTrees

/-! Trees that are one file apart: at one location each of them has a regular file or nothing, and else
they hold the same. A walk goes the same way in both, unless it comes to this location, and there it
ends, at the file or with nothing found. So the links of the trees are resolved alike, and a site finds
the same in both except where a look-up leads to this file. -/

namespace StaticSite

/-! ### Walks -/

namespace FileSystem

/-- That a regular file is at a location, or nothing. -/
def FileAtMost (fs : FileSystem) (l : Location) : Prop :=
  ∀ e, fs.find? l = some e → e.isFile = true

/-- Two trees that hold the same, but for a regular file at a location, which may be missing. The number
of links, which bounds how deeply they are resolved, is the same too. -/
structure ApartAt (l : Location) (fs gs : FileSystem) : Prop where
  left : fs.FileAtMost l
  right : gs.FileAtMost l
  same : ∀ l', l' ≠ l → gs.find? l' = fs.find? l'
  linkCount : gs.linkCount = fs.linkCount

/-- Whether two trees are one file apart, as their entries tell. -/
def isApartAt (l : Location) (fs gs : FileSystem) : Bool :=
  l != [] && fs.entries.all (fun (l', e) => l' != l || e.isFile) &&
    gs.entries.all (fun (l', e) => l' != l || e.isFile) &&
      fs.entries.filter (·.1 != l) == gs.entries.filter (·.1 != l)

/-- The ends of a walk at a location, or where it is found that nothing is there or below it. -/
inductive EndsAt (l : Location) : Except SystemError Location → Prop
  | there : EndsAt l (.ok l)
  | missing : EndsAt l (.error .notFound)
  | blocked : EndsAt l (.error .notDirectory)

/-- Walks with the same end, or both of them end at a location. -/
def Parallel (l : Location) (x y : Except SystemError Location) : Prop :=
  x = y ∨ EndsAt l x ∧ EndsAt l y

variable {fs gs : FileSystem} {caller : Caller} {followLast : Bool} {l : Location}
  {jump jump' : Location → Path → Except SystemError Location}

theorem FileAtMost.cases (h : fs.FileAtMost l) :
    fs.find? l = none ∨ ∃ content modified mode, fs.find? l = some ⟨.file content modified, mode⟩ := by
  cases he : fs.find? l with
  | none => exact Or.inl rfl
  | some e =>
      have hfile := h e he
      obtain ⟨node, mode⟩ := e
      cases node with
      | file content modified => exact Or.inr ⟨content, modified, mode, rfl⟩
      | _ => cases hfile

theorem lookup_filter_ne {entries : List (Location × Entry)} {l' : Location} (hl : l' ≠ l) :
    (entries.filter (·.1 != l)).lookup l' = entries.lookup l' := by
  induction entries with
  | nil => rfl
  | cons entry rest ih =>
      by_cases hentry : entry.1 = l
      · rw [List.filter_cons_of_neg (by simp [hentry]), ih, List.lookup_cons,
          beq_eq_false_iff_ne.mpr (hentry ▸ hl)]
      · rw [List.filter_cons_of_pos (by simp [hentry]), List.lookup_cons, List.lookup_cons, ih]

theorem linkCount_filter_ne (hentries : fs.entries.all (fun (l', e) => l' != l || e.isFile) = true) :
    linkCount ⟨fs.entries.filter (·.1 != l)⟩ = fs.linkCount := by
  rw [linkCount, linkCount, List.countP_filter]
  refine List.countP_congr fun entry hentry => ?_
  have := List.all_eq_true.mp hentries entry hentry
  obtain ⟨l', ⟨node, mode⟩⟩ := entry
  cases node <;> simp_all [Entry.isFile]

theorem apartAt_of_isApartAt (h : isApartAt l fs gs = true) : ApartAt l fs gs := by
  simp only [isApartAt, Bool.and_eq_true, bne_iff_ne, beq_iff_eq] at h
  obtain ⟨⟨⟨hl, hleft⟩, hright⟩, hsame⟩ := h
  have hatMost : ∀ {tree : FileSystem},
      tree.entries.all (fun (l', e) => l' != l || e.isFile) = true → tree.FileAtMost l := by
    intro tree hentries e he
    have := List.all_eq_true.mp hentries _ (mem_entries_of_find? hl he)
    simpa using this
  refine ⟨hatMost hleft, hatMost hright, fun l' hl' => ?_, ?_⟩
  · cases l' with
    | nil => rfl
    | cons name rest =>
        rw [find?, find?, ← lookup_filter_ne hl', ← hsame, lookup_filter_ne hl']
  · rw [← linkCount_filter_ne hleft, ← linkCount_filter_ne hright, hsame]

/-- Nothing is below a regular file, or below nothing. -/
theorem FileAtMost.walkWith_endsAt (h : fs.FileAtMost l) (path : Path) :
    EndsAt l (fs.walkWith caller followLast jump l path) := by
  cases path with
  | nil => exact .there
  | cons part rest =>
      rw [walkWith]
      rcases h.cases with hnone | ⟨content, modified, mode, hfile⟩
      · simp only [checkDirectory, hnone]
        exact .missing
      · simp only [checkDirectory, hfile]
        exact .blocked

/-- A walk that goes on to the location of such a file has come to its end. -/
theorem FileAtMost.walkWith_into_endsAt {place : Location} {name : Name}
    (h : fs.FileAtMost (place ++ [name])) (hname : Path.IsName name)
    (hcheck : fs.checkDirectory caller place name = .ok ()) (hsize : Utf8.size name ≤ maxNameSize)
    (rest : Path) :
    EndsAt (place ++ [name]) (fs.walkWith caller followLast jump place (name :: rest)) := by
  rcases h.cases with hnone | ⟨content, modified, mode, hfile⟩
  · rw [walkWith_name hname hcheck hsize, hnone]
    exact .missing
  · rw [walkWith_entry hname hcheck hsize hfile nofun]
    exact h.walkWith_endsAt rest

/-- The walks in two trees are parallel if the jumps on them are. -/
theorem ApartAt.walkWith_parallel (h : ApartAt l fs gs)
    (hjump : ∀ place path, Parallel l (jump place path) (jump' place path)) (place : Location)
    (path : Path) :
    Parallel l (fs.walkWith caller followLast jump place path)
      (gs.walkWith caller followLast jump' place path) := by
  induction path generalizing place with
  | nil => exact Or.inl rfl
  | cons part rest ih =>
      by_cases hplace : place = l
      · subst hplace
        exact Or.inr ⟨h.left.walkWith_endsAt _, h.right.walkWith_endsAt _⟩
      have hcheck : gs.checkDirectory caller place part = fs.checkDirectory caller place part := by
        simp only [checkDirectory, h.same place hplace]
      -- The file itself is come to only by a name that leads on; else the location plays no part.
      by_cases hnext : place ++ [part] = l ∧ Path.IsName part ∧
          fs.checkDirectory caller place part = .ok () ∧ Utf8.size part ≤ maxNameSize
      · obtain ⟨rfl, hname, hopen, hsize⟩ := hnext
        exact Or.inr ⟨h.left.walkWith_into_endsAt hname hopen hsize rest,
          h.right.walkWith_into_endsAt hname (hcheck.trans hopen) hsize rest⟩
      rw [walkWith, walkWith, hcheck]
      cases hopen : fs.checkDirectory caller place part with
      | error e => exact Or.inl rfl
      | ok u =>
          simp only
          split
          · exact ih place
          split
          · exact ih place.dropLast
          split
          · exact Or.inl rfl
          rename_i hstays habove hsize
          rw [not_or] at hstays
          have hother : place ++ [part] ≠ l := fun heq =>
            hnext ⟨heq, ⟨hstays.1, hstays.2, habove⟩, hopen, Nat.le_of_not_lt hsize⟩
          rw [h.same _ hother]
          split
          · exact Or.inl rfl
          · split
            · exact Or.inl rfl
            · exact hjump _ _
          · exact ih _

theorem ApartAt.walk_parallel (h : ApartAt l fs gs) (links : Nat) (place : Location) (path : Path) :
    Parallel l (fs.walk caller followLast links place path)
      (gs.walk caller followLast links place path) := by
  induction links generalizing place path with
  | zero => exact h.walkWith_parallel (fun _ _ => Or.inl rfl) place path
  | succ links ih => exact h.walkWith_parallel ih place path

end FileSystem

/-! ### What a process sees -/

namespace Vantage

open FileSystem

variable {v : Vantage} {gs : FileSystem} {l : Location} {p : Path}

/-- A process finds the same location, or finds that of the file or nothing in either tree. -/
theorem locate_apart (h : v.files.ApartAt l gs) (followLast : Bool) (p : Path) :
    (v.withFiles gs).locate followLast p = v.locate followLast p ∨
      ∃ x y, EndsAt l x ∧ EndsAt l y ∧ v.locate followLast p = x.mapError .system ∧
        (v.withFiles gs).locate followLast p = y.mapError .system := by
  simp only [locate, withFiles, start]
  split
  · exact Or.inl rfl
  split
  · exact Or.inl rfl
  split
  · exact Or.inl rfl
  have hwalk : Parallel l
      (v.files.walk v.caller followLast maxLinks (if p.isAbsolute then [] else v.workingDirectory) p)
      (gs.walk v.caller followLast maxLinks (if p.isAbsolute then [] else v.workingDirectory) p) :=
    h.walk_parallel _ _ _
  generalize v.files.walk v.caller followLast maxLinks _ p = x at hwalk ⊢
  generalize gs.walk v.caller followLast maxLinks _ p = y at hwalk ⊢
  rcases hwalk with rfl | ⟨hx, hy⟩
  · exact Or.inl rfl
  · exact Or.inr ⟨x, y, hx, hy, by cases x <;> rfl, by cases y <;> rfl⟩

/-- No link is seen where a regular file is at most. -/
theorem linkAt?_of_endsAt (h : v.files.FileAtMost l) {place : Location}
    {x : Except SystemError Location} (hx : EndsAt l x)
    (hlocate : v.locate false (Location.path place) = x.mapError .system) : v.linkAt? place = none := by
  rw [linkAt?, hlocate]
  cases hx with
  | there =>
      rcases h.cases with hnone | ⟨content, modified, mode, hfile⟩
      · simp only [mapError_ok, hnone]
      · simp only [mapError_ok, hfile]
  | missing => rfl
  | blocked => rfl

theorem linkAt?_apart (h : v.files.ApartAt l gs) (place : Location) :
    (v.withFiles gs).linkAt? place = v.linkAt? place := by
  rcases locate_apart h false (Location.path place) with hsame | ⟨x, y, hx, hy, hleft, hright⟩
  · -- The file may be found in one tree and missing in the other, but it is no link in either.
    by_cases hplace : v.locate false (Location.path place) = .ok l
    · rw [linkAt?_of_endsAt h.left .there hplace]
      exact linkAt?_of_endsAt (v := v.withFiles gs) h.right .there (hsame.trans hplace)
    · rw [linkAt?, linkAt?, hsame]
      cases hlocate : v.locate false (Location.path place) with
      | error e => rfl
      | ok q =>
          have hq : q ≠ l := fun heq => hplace (heq ▸ hlocate)
          simp only [withFiles, h.same q hq]
  · rw [linkAt?_of_endsAt h.left hx hleft]
    exact linkAt?_of_endsAt (v := v.withFiles gs) h.right hy hright

theorem realPath_apart (h : v.files.ApartAt l gs) (p : Path) :
    (v.withFiles gs).realPath p = v.realPath p :=
  realPath_congr (linkAt?_apart h) h.linkCount rfl p

/-- What is not the file itself is the same. -/
theorem stat_apart (h : v.files.ApartAt l gs) {e : Entry} (he : v.stat p = .ok e)
    (hp : v.locate true p ≠ .ok l) : (v.withFiles gs).stat p = .ok e := by
  rw [stat] at he ⊢
  rcases locate_apart h true p with hsame | ⟨x, y, hx, hy, hleft, hright⟩
  · rw [hsame]
    cases hlocate : v.locate true p with
    | error e' =>
        rw [hlocate] at he
        cases he
    | ok q =>
        have hq : q ≠ l := fun heq => hp (heq ▸ hlocate)
        rw [hlocate] at he
        simp only [bind, Except.bind, withFiles, h.same q hq] at he ⊢
        exact he
  · rw [hleft] at he hp
    cases hx with
    | there => exact absurd rfl hp
    | missing => cases he
    | blocked => cases he

theorem read_apart (h : v.files.ApartAt l gs) {e : Entry} (he : v.stat p = .ok e)
    (hp : v.locate true p ≠ .ok l) : (v.withFiles gs).read p = v.read p := by
  rw [read, read, he, stat_apart h he hp]
  rfl

theorem locate_directory_ne (h : v.files.FileAtMost l) {e : Entry} (he : v.stat p = .ok e)
    (hdir : e.isDirectory = true) : v.locate true p ≠ .ok l := by
  intro hlocate
  rw [stat, hlocate] at he
  simp only [bind, Except.bind] at he
  rcases h.cases with hnone | ⟨content, modified, mode, hfile⟩
  · rw [hnone] at he
    cases he
  · rw [hfile] at he
    cases he
    cases hdir

end Vantage

/-! ### What a site finds -/

namespace Site

open FileSystem

variable {v : Vantage} {gs : FileSystem} {l place : Location} {root p : Path}

/-- That what is found at a path, if anything is, is not the file at a location. -/
def Spares (l : Location) (v : Vantage) (root p : Path) : Prop :=
  ∀ found, lookup v root p = .ok (some found) → v.locate true (Location.path found.place) ≠ .ok l

/-- Whether what is found at a path is not the file, as the look-up tells. -/
def isSparing (l : Location) (v : Vantage) (root p : Path) : Bool :=
  match lookup v root p with
  | .ok (some found) => (v.locate true (Location.path found.place)).toOption != some l
  | _ => true

theorem spares_of_isSparing (h : isSparing l v root p = true) : Spares l v root p := by
  intro found hfound hlocate
  rw [isSparing, hfound] at h
  simp only [hlocate, Except.toOption, bne_self_eq_false, Bool.false_eq_true] at h

/-- Where a look comes to the file or to nothing there, and not to the file, nothing is found. -/
theorem statPlace_of_endsAt {x : Except SystemError Location} (hx : EndsAt l x)
    (hlocate : v.locate true (Location.path place) = x.mapError .system)
    (hspares : ∀ found, statPlace v place = .ok (some found) →
      v.locate true (Location.path found.place) ≠ .ok l) : statPlace v place = .ok none := by
  cases hx with
  | there =>
      cases hfind : v.files.find? l with
      | none => simp [statPlace, Vantage.stat, hlocate, hfind, bind, Except.bind]
      | some e =>
          have hfound : statPlace v place = .ok (some ⟨place, e⟩) := by
            simp [statPlace, Vantage.stat, hlocate, hfind, bind, Except.bind]
          exact absurd hlocate (hspares _ hfound)
  | missing => simp [statPlace, Vantage.stat, hlocate, bind, Except.bind]
  | blocked => simp [statPlace, Vantage.stat, hlocate, bind, Except.bind]

theorem statPlace_apart (h : v.files.ApartAt l gs)
    (hleft : ∀ found, statPlace v place = .ok (some found) →
      v.locate true (Location.path found.place) ≠ .ok l)
    (hright : ∀ found, statPlace (v.withFiles gs) place = .ok (some found) →
      (v.withFiles gs).locate true (Location.path found.place) ≠ .ok l) :
    statPlace (v.withFiles gs) place = statPlace v place := by
  rcases Vantage.locate_apart h true (Location.path place) with hsame | ⟨x, y, hx, hy, hv, hw⟩
  · by_cases hl : v.locate true (Location.path place) = .ok l
    · rw [statPlace_of_endsAt .there hl hleft,
        statPlace_of_endsAt .there (hsame.trans hl) hright]
    · have hstat : (v.withFiles gs).stat (Location.path place) = v.stat (Location.path place) := by
        rw [Vantage.stat, Vantage.stat, hsame]
        cases hlocate : v.locate true (Location.path place) with
        | error e => rfl
        | ok q =>
            have hq : q ≠ l := fun heq => hl (heq ▸ hlocate)
            simp only [bind, Except.bind, Vantage.withFiles, h.same q hq]
      rw [statPlace, statPlace, hstat]
  · rw [statPlace_of_endsAt hx hv hleft, statPlace_of_endsAt hy hw hright]

theorem lookup_apart (h : v.files.ApartAt l gs) (hleft : Spares l v root p)
    (hright : Spares l (v.withFiles gs) root p) :
    lookup (v.withFiles gs) root p = lookup v root p := by
  unfold Spares lookup at hleft hright
  unfold lookup
  rw [Vantage.realPath_apart h, Vantage.realPath_apart h] at hright ⊢
  split
  · rfl
  rename_i hbackslash
  simp only [if_neg hbackslash] at hleft hright
  split
  · rename_i place top hplace htop
    simp only [hplace, htop] at hleft hright
    split
    · rename_i hinside
      rw [if_pos hinside] at hleft hright
      exact statPlace_apart h hleft hright
    · rfl
  all_goals rfl

theorem findsAlike_apart (h : v.files.ApartAt l gs) (hleft : Spares l v root p)
    (hright : Spares l (v.withFiles gs) root p) : FindsAlike v (v.withFiles gs) root p where
  found := lookup_apart h hleft hright
  read found hfound := Vantage.read_apart h (lookup_some hfound).2.2 (hleft found hfound)

theorem checkRoot_apart (h : v.files.ApartAt l gs) {rootDir : Text} (hroot : v.HasDirectory rootDir) :
    checkRoot (v.withFiles gs) rootDir = checkRoot v rootDir := by
  obtain ⟨e, he, hdir⟩ := hroot
  rw [checkRoot, checkRoot, he, Vantage.stat_apart h he (Vantage.locate_directory_ne h.left he hdir)]

end Site

/-- That the look-ups for a request do not come to the file at a location, in either of two trees. -/
structure App.Spares (a : App) (l : Location) (v w : Vantage) (r : Request) : Prop where
  left : ∀ p ∈ a.lookedUp r, Site.Spares l v (Path.ofText a.settings.rootDir) p
  right : ∀ p ∈ a.lookedUp r, Site.Spares l w (Path.ofText a.settings.rootDir) p

/-- Trees that are one file apart look alike to a site in a directory of them, except where a look-up
comes to this file. -/
theorem App.seesAlike_apart {a : App} {v : Vantage} {gs : FileSystem} {l : Location} {r : Request}
    (h : v.files.ApartAt l gs) (hroot : v.HasDirectory a.settings.rootDir)
    (hspares : a.Spares l v (v.withFiles gs) r) : a.SeesAlike v (v.withFiles gs) r where
  root _ := Site.checkRoot_apart h hroot
  finds p hp := Site.findsAlike_apart h (hspares.left p hp) (hspares.right p hp)

end StaticSite
