import StaticSite.FileSystem.Normal
import StaticSite.Proofs.Settled

/-! Applying a path to a location as it is written. The reduced form of a path leads to where the path
itself does: what it takes back is what had been entered just before. -/

namespace StaticSite

namespace Path

theorem enter_of_stays {place : Location} {part : Text} (h : part = [] ∨ part = here) :
    enter place part = place :=
  if_pos h

theorem enter_above (place : Location) : enter place above = place.dropLast := by
  rw [enter, if_neg (by decide), if_pos rfl]

theorem enter_name {place : Location} {part : Text} (h : IsName part) :
    enter place part = place ++ [part] := by
  rw [enter, if_neg h.leaves, if_neg h.2.2]

/-- All parts of a location are names, also after a path has been applied to it. -/
theorem isName_foldl_enter {place : Location} (h : ∀ name ∈ place, IsName name) (p : Path) :
    ∀ name ∈ p.foldl enter place, IsName name := by
  induction p generalizing place with
  | nil => exact h
  | cons part rest ih =>
      rw [List.foldl_cons]
      refine ih fun name hname => ?_
      by_cases hstays : part = [] ∨ part = here
      · rw [enter_of_stays hstays] at hname
        exact h name hname
      · by_cases habove : part = above
        · rw [habove, enter_above] at hname
          exact h name ((List.dropLast_prefix _).subset hname)
        · have hpart : IsName part :=
            ⟨fun h => hstays (Or.inl h), fun h => hstays (Or.inr h), habove⟩
          rw [enter_name hpart] at hname
          rcases List.mem_append.mp hname with hname | hname
          · exact h name hname
          · rw [List.mem_singleton.mp hname]
            exact hpart

/-- What stands in a reduced path: names and ways up. -/
def Moves (part : Text) : Prop :=
  part = above ∨ IsName part

/-- One step of the reduction leads to where the part leads that it takes in. -/
theorem foldl_enter_reduceStep {before : Path} (h : ∀ part ∈ before, Moves part) (place : Location)
    (part : Text) :
    (reduceStep before part).reverse.foldl enter place =
      enter (before.reverse.foldl enter place) part ∧
    ∀ other ∈ reduceStep before part, Moves other := by
  unfold reduceStep
  by_cases hstays : part = [] ∨ part = here
  · rw [if_pos hstays, enter_of_stays hstays]
    exact ⟨rfl, h⟩
  rw [if_neg hstays]
  by_cases habove : part = above
  · rw [if_pos habove, habove]
    cases before with
    | nil => exact ⟨rfl, fun other hother => Or.inl (List.mem_singleton.mp hother)⟩
    | cons last rest =>
        simp only
        by_cases hlast : last = above
        · rw [if_pos hlast, List.reverse_cons, List.foldl_append]
          refine ⟨rfl, fun other hother => ?_⟩
          rcases List.mem_cons.mp hother with rfl | hother
          · exact Or.inl rfl
          · exact h other hother
        · have hname : IsName last := (h last List.mem_cons_self).resolve_left hlast
          rw [if_neg hlast, List.reverse_cons, List.foldl_append, List.foldl_cons, List.foldl_nil,
            enter_name hname, enter_above, List.dropLast_concat]
          exact ⟨rfl, fun other hother => h other (List.mem_cons_of_mem _ hother)⟩
  · rw [if_neg habove, List.reverse_cons, List.foldl_append]
    refine ⟨rfl, fun other hother => ?_⟩
    rcases List.mem_cons.mp hother with rfl | hother
    · exact Or.inr ⟨fun h => hstays (Or.inl h), fun h => hstays (Or.inr h), habove⟩
    · exact h other hother

theorem foldl_enter_foldl_reduceStep {before : Path} (h : ∀ part ∈ before, Moves part)
    (place : Location) (p : Path) :
    (p.foldl reduceStep before).reverse.foldl enter place =
      p.foldl enter (before.reverse.foldl enter place) := by
  induction p generalizing before with
  | nil => rfl
  | cons part rest ih =>
      obtain ⟨hplace, hmoves⟩ := foldl_enter_reduceStep h place part
      rw [List.foldl_cons, List.foldl_cons, ih hmoves, hplace]

/-- A path and its reduced form lead from each location to the same. -/
theorem foldl_enter_reduce (place : Location) (p : Path) :
    (reduce p).foldl enter place = p.foldl enter place := by
  have h : (p.foldl reduceStep []).reverse.foldl enter place = p.foldl enter place :=
    foldl_enter_foldl_reduceStep (fun part hpart => by cases hpart) place p
  rw [reduce]
  split
  · rename_i hnil
    rw [hnil] at h
    exact h
  · exact h

theorem reduce_ne_nil (p : Path) : reduce p ≠ [] := by
  rw [reduce]
  split
  · exact List.cons_ne_nil _ _
  · rename_i hne
    exact hne

theorem mem_reduceStep {before : Path} {next part : Text} (h : part ∈ reduceStep before next) :
    part ∈ before ∨ part = next := by
  unfold reduceStep at h
  by_cases hstays : next = [] ∨ next = here
  · rw [if_pos hstays] at h
    exact Or.inl h
  rw [if_neg hstays] at h
  by_cases habove : next = above
  · rw [if_pos habove] at h
    cases before with
    | nil => exact Or.inr ((List.mem_singleton.mp h).trans habove.symm)
    | cons last rest =>
        simp only at h
        split at h
        · rcases List.mem_cons.mp h with h | h
          · exact Or.inr (h.trans habove.symm)
          · exact Or.inl h
        · exact Or.inl (List.mem_cons_of_mem _ h)
  · rw [if_neg habove] at h
    exact (List.mem_cons.mp h).symm

theorem mem_foldl_reduceStep {before p : Path} {part : Text}
    (h : part ∈ p.foldl reduceStep before) : part ∈ before ∨ part ∈ p := by
  induction p generalizing before with
  | nil => exact Or.inl h
  | cons next rest ih =>
      rcases ih h with hbefore | hrest
      · rcases mem_reduceStep hbefore with hbefore | rfl
        · exact Or.inl hbefore
        · exact Or.inr List.mem_cons_self
      · exact Or.inr (List.mem_cons_of_mem _ hrest)

/-- The parts of a reduced path are parts of the path, but for the one that stays. -/
theorem mem_reduce {p : Path} {part : Text} (h : part ∈ reduce p) : part ∈ p ∨ part = here := by
  rw [reduce] at h
  split at h
  · exact Or.inr (List.mem_singleton.mp h)
  · rcases mem_foldl_reduceStep (List.mem_reverse.mp h) with hnil | hp
    · cases hnil
    · exact Or.inl hp

/-- An absolute path is one whichever way it goes on, and so is a relative one that is not empty. -/
theorem isAbsolute_append {p : Path} (h : p.text ≠ []) (rest : Path) :
    isAbsolute (p ++ rest) = isAbsolute p := by
  rcases p with _ | ⟨first, _ | ⟨second, p⟩⟩
  · exact absurd rfl h
  · cases first with
    | nil => exact absurd rfl h
    | cons c first => rfl
  · cases first <;> rfl

end Path

end StaticSite
