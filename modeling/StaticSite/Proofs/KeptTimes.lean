import StaticSite.Proofs.Calendar
import StaticSite.Proofs.Containment
import StaticSite.Proofs.Rounding
import StaticSite.Site.History

/-! The times that a tree keeps. A file that is written with a time beyond them gets the first or the
last one instead; so no change brings in another time, and none ever comes in. All of them lie in years
that a date can name. -/

namespace StaticSite

namespace FileSystem

/-- A time is kept as it is, or the first or the last one is kept for it. -/
theorem keepTime_cases (modified : Int) :
    (keptSeconds.1 < modified / 1000000000 ∧ modified / 1000000000 < keptSeconds.2 ∧
        keepTime modified = modified) ∨
      keepTime modified = keptSeconds.1 * 1000000000 ∨
        keepTime modified = keptSeconds.2 * 1000000000 := by
  by_cases h : keptSeconds.1 < modified / 1000000000 ∧ modified / 1000000000 < keptSeconds.2
  · exact Or.inl ⟨h.1, h.2, if_pos h⟩
  · have hkept : keepTime modified =
        max keptSeconds.1 (min (modified / 1000000000) keptSeconds.2) * 1000000000 := if_neg h
    simp only [keptSeconds] at *
    omega

/-- A time that is kept lies between the first and the last one. -/
theorem seconds_keepTime (modified : Int) :
    keptSeconds.1 ≤ keepTime modified / 1000000000 ∧
      keepTime modified / 1000000000 ≤ keptSeconds.2 := by
  have hcases := keepTime_cases modified
  simp only [keptSeconds] at *
  omega

/-- A time that is kept is kept as it is. -/
theorem keepTime_keepTime (modified : Int) : keepTime (keepTime modified) = keepTime modified := by
  rcases keepTime_cases modified with ⟨-, -, h⟩ | h | h
  · rw [h, h]
  · rw [h]
    decide
  · rw [h]
    decide

end FileSystem

/-- Whether the time of an entry is one that a tree keeps. -/
def Entry.isKept (e : Entry) : Bool :=
  match e.node with
  | .file _ modified => FileSystem.keepTime modified = modified
  | _ => true

namespace FileSystem

/-- A tree in which all times are such as it keeps. -/
def Kept (fs : FileSystem) : Prop :=
  ∀ x ∈ fs.entries, x.2.isKept = true

instance (fs : FileSystem) : Decidable fs.Kept :=
  inferInstanceAs (Decidable (∀ x ∈ fs.entries, x.2.isKept = true))

namespace Kept

variable {fs changed : FileSystem}

/-! ### What a change does -/

theorem erase (h : fs.Kept) (place : Location) : (fs.erase place).Kept :=
  fun x hx => h x (List.mem_filter.mp hx).1

theorem put (h : fs.Kept) (place : Location) {e : Entry} (he : e.isKept = true) :
    (fs.put place e).Kept := by
  intro x hx
  rcases List.mem_cons.mp hx with rfl | hx
  · exact he
  · exact h.erase place x hx

theorem move (h : fs.Kept) (source target : Location) : (fs.move source target).Kept := by
  intro x hx
  rcases List.mem_append.mp hx with hx | hx
  · obtain ⟨y, hy, hmoved⟩ := List.mem_filterMap.mp hx
    obtain ⟨below, -, rfl⟩ := Option.map_eq_some_iff.mp hmoved
    exact h y hy
  · exact (h.erase source).erase target x hx

theorem setMode (h : fs.Kept) (place : Location) (mode : Nat) : (fs.setMode place mode).Kept := by
  unfold FileSystem.setMode
  split
  · rename_i e he
    intro x hx
    rcases List.mem_cons.mp hx with rfl | hx
    · by_cases hplace : place = []
      · rw [hplace] at he
        cases he
        rfl
      · exact h (place, e) (mem_entries_of_find? hplace he)
    · exact h x hx
  · exact h

theorem makeDirectories {workingDirectory : Location} {done path : Path} (h : fs.Kept)
    (hmade : fs.makeDirectories workingDirectory done path = .ok changed) : changed.Kept := by
  induction path generalizing fs done with
  | nil =>
      unfold FileSystem.makeDirectories at hmade
      split at hmade
      · cases hmade
        exact h
      · cases hmade
  | cons part rest ih =>
      unfold FileSystem.makeDirectories at hmade
      dsimp only at hmade
      split at hmade
      · exact ih h hmade
      split at hmade
      · exact ih (h.put _ rfl) hmade
      · exact ih h hmade
      · cases hmade

/-- A change leaves a tree with times that it keeps. -/
theorem attempt {workingDirectory : Location} {e : Edit} (h : fs.Kept)
    (hattempt : fs.attempt workingDirectory e = .ok changed) : changed.Kept := by
  cases e with
  | write path content modified =>
      obtain ⟨there, -, hwritten⟩ := exists_of_bind hattempt
      dsimp only at hwritten
      split at hwritten
      · cases hwritten
      · cases hwritten
        exact h
      · split at hwritten
        · cases hwritten
          exact h.put there (decide_eq_true (keepTime_keepTime modified))
        · cases hwritten
  | makeDirectory path =>
      unfold FileSystem.attempt at hattempt
      dsimp only at hattempt
      split at hattempt
      · cases hattempt
      · exact h.makeDirectories hattempt
  | remove path =>
      obtain ⟨there, -, hremoved⟩ := exists_of_bind hattempt
      cases hremoved
      exact h.erase there
  | link path target =>
      unfold FileSystem.attempt at hattempt
      dsimp only at hattempt
      split at hattempt
      · cases hattempt
      split at hattempt
      · cases hattempt
      split at hattempt
      · cases hattempt
      obtain ⟨there, -, hlinked⟩ := exists_of_bind hattempt
      cases hlinked
      exact h.put there rfl
  | rename path target =>
      obtain ⟨places, -, hrenamed⟩ := exists_of_bind hattempt
      cases hrenamed
      split
      · exact h
      · exact h.move _ _
  | changeMode path mode =>
      obtain ⟨there, -, hchanged⟩ := exists_of_bind hattempt
      cases hchanged
      exact h.setMode there mode
  | pipe path =>
      obtain ⟨there, -, hmade⟩ := exists_of_bind hattempt
      cases hmade
      exact h.put there rfl

theorem apply (h : fs.Kept) (workingDirectory : Location) (e : Edit) :
    (fs.apply workingDirectory e).Kept := by
  unfold FileSystem.apply
  split
  · rename_i hattempt
    exact h.attempt hattempt
  · exact h

end Kept

end FileSystem

/-! ### In the course of time -/

namespace App

theorem kept_step {c : Circumstances} {s : Stage} (h : s.vantage.files.Kept) (x : Step) :
    (step c s x).1.vantage.files.Kept := by
  cases x with
  | edit e => exact h.apply s.vantage.workingDirectory e
  | startup => exact h
  | shutdown => exact h
  | request r => exact h
  | socket r => exact h

/-- Whatever happens, the times in the tree stay such as it keeps. -/
theorem kept_after {c : Circumstances} {s : Stage} (h : s.vantage.files.Kept) (steps : List Step) :
    (after c s steps).vantage.files.Kept := by
  induction steps generalizing s with
  | nil => exact h
  | cons x rest ih => exact ih (kept_step h x)

end App

/-! ### Dates -/

namespace Validator

open Number

/-- A date can name each time that is not too far from the beginning of 1970. -/
theorem nameable_of_abs_le {modified : Int} (h : |modified / 1000000000| ≤ 15032385535) :
    nameable modified = true := by
  have hseconds := abs_value_seconds_le modified
  have hwhole := abs_wholeSeconds_le (seconds modified)
  have hbound : |((modified / 1000000000 : Int) : ℚ)| ≤ 15032385535 := by
    rw [← Int.cast_abs]
    exact_mod_cast h
  have hsmall : |wholeSeconds (seconds modified)| ≤ 60129542157 := by
    have hrat : |(wholeSeconds (seconds modified) : ℚ)| ≤ 60129542157 := by linarith
    rw [← Int.cast_abs] at hrat
    exact_mod_cast hrat
  rw [abs_le] at hsmall
  have hbegin := ClockTime.le_year_iff 1 (wholeSeconds (seconds modified))
  have hend := ClockTime.le_year_iff 10000 (wholeSeconds (seconds modified))
  have hfirst : Date.yearStart 1 = -719162 := by decide
  have hlast : Date.yearStart 10000 = 2932897 := by decide
  rw [hfirst] at hbegin
  rw [hlast] at hend
  have hyears : years.1 ≤ (ClockTime.ofSeconds (wholeSeconds (seconds modified))).year ∧
      (ClockTime.ofSeconds (wholeSeconds (seconds modified))).year ≤ years.2 := by
    simp only [years]
    omega
  rw [nameable, timeText, if_pos hyears]
  rfl

/-- A date can name each time that a tree keeps. -/
theorem nameable_of_kept {modified : Int} (h : FileSystem.keepTime modified = modified) :
    nameable modified = true := by
  obtain ⟨hfirst, hlast⟩ := FileSystem.seconds_keepTime modified
  rw [h] at hfirst hlast
  refine nameable_of_abs_le (abs_le.mpr ?_)
  simp only [FileSystem.keptSeconds] at *
  omega

end Validator

theorem FileSystem.Kept.nameable {fs : FileSystem} (h : fs.Kept) {l : Location}
    {content : List UInt8} {modified : Int} {mode : Nat}
    (he : fs.find? l = some ⟨.file content modified, mode⟩) : Validator.nameable modified = true := by
  have hl : l ≠ [] := by
    rintro rfl
    cases he
  exact Validator.nameable_of_kept (of_decide_eq_true (h _ (mem_entries_of_find? hl he)))

end StaticSite
