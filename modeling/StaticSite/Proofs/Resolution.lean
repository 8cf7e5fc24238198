import Mathlib.Data.List.Induction
import StaticSite.Proofs.Settled

/-! Resolving a path. As long as a resolution is not cut short, it leads from settled locations to
settled ones, and so do the links that it remembers; therefore what the path of its result leads to
is the result itself. -/

namespace StaticSite

/-- A process in a tree as trees are: above each entry there is a directory, entries have names, and
the process works in a directory of the tree. -/
structure Vantage.Grounded (v : Vantage) : Prop where
  parent : ∀ l name e, v.files.find? (l ++ [name]) = some e →
    ∃ d, v.files.find? l = some d ∧ d.isDirectory = true
  names : ∀ l name e, v.files.find? (l ++ [name]) = some e → Path.IsName name
  workingDirectory : ∃ d, v.files.find? v.workingDirectory = some d ∧ d.isDirectory = true

theorem Entry.isDirectory_iff {e : Entry} : e.isDirectory = true ↔ e.node = .directory := by
  simp only [Entry.isDirectory, decide_eq_true_eq]

theorem FileSystem.mem_entries_of_find? {fs : FileSystem} {l : Location} {e : Entry} (hl : l ≠ [])
    (he : fs.find? l = some e) : (l, e) ∈ fs.entries := by
  obtain ⟨name, rest, rfl⟩ := List.exists_cons_of_ne_nil hl
  obtain ⟨before, after, hentries, -⟩ := List.lookup_eq_some_iff.mp he
  rw [hentries]
  exact List.mem_append_right _ List.mem_cons_self

namespace Vantage

variable {v : Vantage}

/-! ### Trees as they are -/

/-- On the way to a directory there are directories only. -/
theorem Grounded.directory_of_prefix (h : v.Grounded) {l place : Location} {e : Entry}
    (hl : l <+: place) (he : v.files.find? place = some e) (hdir : e.isDirectory = true) :
    ∃ d, v.files.find? l = some d ∧ d.isDirectory = true := by
  obtain ⟨rest, rfl⟩ := hl
  induction rest using List.reverseRecOn generalizing e with
  | nil =>
      rw [List.append_nil] at he
      exact ⟨e, he, hdir⟩
  | append_singleton rest name ih =>
      rw [← List.append_assoc] at he
      obtain ⟨d, hd, hdd⟩ := h.parent _ _ _ he
      exact ih hdd hd

theorem Grounded.isName (h : v.Grounded) {place : Location} {e : Entry}
    (he : v.files.find? place = some e) : ∀ name ∈ place, Path.IsName name := by
  induction place using List.reverseRecOn generalizing e with
  | nil =>
      intro name hname
      cases hname
  | append_singleton place name ih =>
      intro n hn
      rcases List.mem_append.mp hn with hn | hn
      · obtain ⟨d, hd, -⟩ := h.parent _ _ _ he
        exact ih hd n hn
      · rw [List.mem_singleton.mp hn]
        exact h.names _ _ _ he

/-- No link is on the way to a directory. -/
theorem Grounded.settled (h : v.Grounded) {place : Location} {e : Entry}
    (he : v.files.find? place = some e) (hdir : e.isDirectory = true) : v.Settled place where
  names := h.isName he
  unlinked l hl := by
    have hlinks : ∀ l' name, l' ++ [name] <+: l →
        ∀ target mode, v.files.find? (l' ++ [name]) ≠ some ⟨.link target, mode⟩ := by
      intro l' name hl' target mode hlink
      obtain ⟨d, hd, hdd⟩ := h.directory_of_prefix (hl'.trans hl) he hdir
      rw [hlink] at hd
      cases hd
      exact absurd (Entry.isDirectory_iff.mp hdd) (by simp)
    rw [linkAt?]
    cases hq : v.locate false (Location.path l) with
    | error e => rfl
    | ok q =>
        obtain ⟨jump, hlocate⟩ := locate_path v false (admissible_of_locate hq)
        rw [hlocate] at hq
        cases hwalk : v.files.walkWith v.caller false jump [] l with
        | error e =>
            rw [hwalk] at hq
            cases hq
        | ok q' =>
            rw [hwalk] at hq
            cases hq
            have hql := FileSystem.walkWith_of_unlinked []
              (fun n hn => h.isName he n (hl.subset hn)) FileSystem.reaches_nil
              (fun l' name hl' _ _ _ => hlinks l' name hl') hwalk
            rw [List.nil_append] at hql
            subst hql
            obtain ⟨d, hd, hdd⟩ := h.directory_of_prefix hl he hdir
            simp only [hd]
            obtain ⟨node, mode⟩ := d
            rw [Entry.isDirectory_iff] at hdd
            simp only at hdd
            rw [hdd]

theorem settled_nil : v.Settled [] where
  names name hname := by cases hname
  unlinked l hl := by
    rw [List.prefix_nil.mp hl, linkAt?]
    cases hq : v.locate false (Location.path []) with
    | error e => rfl
    | ok q =>
        obtain ⟨jump, hlocate⟩ := locate_path v false (admissible_of_locate hq)
        rw [hlocate] at hq
        cases hq
        rfl

/-- Whether a process is in a tree as trees are, as its entries tell. -/
def isGrounded (v : Vantage) : Bool :=
  (v.files.entries.all fun (l, _) =>
    (v.files.find? l.dropLast).any (·.isDirectory) &&
      l.getLast?.all fun name => name != [] && name != Path.here && name != Path.above) &&
    (v.files.find? v.workingDirectory).any (·.isDirectory)

theorem grounded_of_isGrounded (h : v.isGrounded = true) : v.Grounded := by
  rw [isGrounded, Bool.and_eq_true, List.all_eq_true] at h
  obtain ⟨hentries, hworking⟩ := h
  have hentry : ∀ l name e, v.files.find? (l ++ [name]) = some e →
      (v.files.find? l).any (·.isDirectory) = true ∧ Path.IsName name := by
    intro l name e he
    have := hentries _ (FileSystem.mem_entries_of_find? (by simp) he)
    simp only [List.dropLast_concat, List.getLast?_concat, Option.all_some, Bool.and_eq_true,
      bne_iff_ne] at this
    exact ⟨this.1, this.2.1.1, this.2.1.2, this.2.2⟩
  refine ⟨fun l name e he => ?_, fun l name e he => (hentry l name e he).2, ?_⟩
  · exact (Option.any_eq_true _ _).mp (hentry l name e he).1
  · exact (Option.any_eq_true _ _).mp hworking

/-! ### Following links -/

/-- The links that have been resolved lead to settled locations. -/
def AllSettled (v : Vantage) (met : Met) : Prop :=
  ∀ l found, met.lookup l = some (some found) → v.Settled found

/-- What a resolution leaves is settled, if it was followed to its end. -/
def Resolution.Sound (v : Vantage) (r : Resolution) : Prop :=
  r.finished = true → v.Settled r.place ∧ v.AllSettled r.met

theorem AllSettled.cons {met : Met} {there : Location} {found : Option Location}
    (h : v.AllSettled met) (hfound : ∀ place, found = some place → v.Settled place) :
    v.AllSettled ((there, found) :: met) := by
  intro l place hl
  rw [List.lookup_cons] at hl
  split at hl
  · exact hfound place (Option.some.inj hl)
  · exact h l place hl

theorem resolveWith_sound {follow : Met → Location → Path → Except PathError Resolution}
    (hfollow : ∀ met place path r, v.AllSettled met → v.Settled place →
      follow met place path = .ok r → r.Sound v)
    {met : Met} {place : Location} {path : Path} {r : Resolution} (hmet : v.AllSettled met)
    (hplace : v.Settled place) (hr : v.resolveWith follow met place path = .ok r) : r.Sound v := by
  induction path generalizing met place with
  | nil =>
      cases hr
      exact fun _ => ⟨hplace, hmet⟩
  | cons part rest ih =>
      rw [resolveWith] at hr
      split at hr
      · exact ih hmet hplace hr
      rename_i hstays
      split at hr
      · exact ih hmet (hplace.of_prefix (List.dropLast_prefix _)) hr
      rename_i habove
      have hname : Path.IsName part := ⟨fun h => hstays (Or.inl h), fun h => hstays (Or.inr h), habove⟩
      split at hr
      · cases hr
      cases hlink : v.linkAt? (place ++ [part]) with
      | none =>
          simp only [hlink] at hr
          exact ih hmet (hplace.concat hname hlink) hr
      | some target =>
          simp only [hlink] at hr
          cases hlookup : met.lookup (place ++ [part]) with
          | some found =>
              cases found with
              | some found =>
                  simp only [hlookup] at hr
                  exact ih hmet (hmet _ _ hlookup) hr
              | none =>
                  -- The link is met inside its own target, so the resolution ends early.
                  simp only [hlookup] at hr
                  cases hr
                  exact fun h => by cases h
          | none =>
              -- The link is met for the first time, and marked as begun while it is followed.
              simp only [hlookup] at hr
              cases htarget : follow ((place ++ [part], none) :: met)
                  (if (Path.ofText target).isAbsolute then [] else place) (Path.ofText target) with
              | error e =>
                  simp only [htarget] at hr
                  cases hr
              | ok r' =>
                  simp only [htarget] at hr
                  have hstart : v.Settled (if (Path.ofText target).isAbsolute then [] else place) := by
                    split
                    · exact settled_nil
                    · exact hplace
                  have hsound := hfollow _ _ _ _ (hmet.cons (by intro _ h; cases h)) hstart htarget
                  split at hr
                  · rename_i hfinished
                    obtain ⟨hsettled, hall⟩ := hsound hfinished
                    exact ih (hall.cons fun _ h => Option.some.inj h ▸ hsettled) hsettled hr
                  · cases hr
                    exact fun h => by cases h

theorem resolve_sound {depth : Nat} {met : Met} {place : Location} {path : Path} {r : Resolution}
    (hmet : v.AllSettled met) (hplace : v.Settled place)
    (hr : v.resolve depth met place path = .ok r) : r.Sound v := by
  induction depth generalizing met place path r with
  | zero =>
      refine resolveWith_sound (fun _ _ _ r _ _ h => ?_) hmet hplace hr
      cases h
      exact fun h => by cases h
  | succ depth ih =>
      exact resolveWith_sound (fun _ _ _ _ hm hp h => ih hm hp h) hmet hplace hr

/-- A path whose resolution ends early, since a link on it is met inside its own target. -/
def CutShort (v : Vantage) (p : Path) : Prop :=
  ∃ r, v.resolve v.files.linkCount [] (v.start p) p = .ok r ∧ r.finished = false

/-- The real path of a path that is not cut short leads to itself. -/
theorem locate_realPath {p : Path} {place q : Location} (hground : v.Grounded)
    (hplace : v.realPath p = .ok place) (hcut : ¬ v.CutShort p)
    (hq : v.locate true (Location.path place) = .ok q) : q = place := by
  rw [realPath] at hplace
  cases hr : v.resolve v.files.linkCount [] (v.start p) p with
  | error e =>
      rw [hr] at hplace
      cases hplace
  | ok r =>
      rw [hr] at hplace
      cases hplace
      have hfinished : r.finished = true := by
        cases hf : r.finished with
        | true => rfl
        | false => exact absurd ⟨r, hr, hf⟩ hcut
      have hstart : v.Settled (v.start p) := by
        rw [start]
        split
        · exact settled_nil
        · obtain ⟨d, hd, hdir⟩ := hground.workingDirectory
          exact hground.settled hd hdir
      have hnone : v.AllSettled [] := fun l found h => by cases h
      exact (resolve_sound hnone hstart hr hfinished).1.locate_eq hq

end Vantage

end StaticSite
