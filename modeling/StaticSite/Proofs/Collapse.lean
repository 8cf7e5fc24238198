import Mathlib.Data.List.Induction
import Mathlib.Data.List.Nodup
import StaticSite.Settings.DotEnv

/-! One assignment for each name. Of several assignments to a name the last one counts and stands
where the first one stood; assignments to other names have no part in this. -/

namespace StaticSite.DotEnv

variable {known : List Assignment} {a : Assignment}

/-! ### One assignment more -/

/-- An assignment, or another one in its place if that is to the same name. -/
def replaceBy (a b : Assignment) : Assignment :=
  if b.name == a.name then a else b

theorem name_replaceBy (a b : Assignment) : (replaceBy a b).name = b.name := by
  unfold replaceBy
  split
  next h => exact (beq_iff_eq.mp h).symm
  · rfl

theorem replaceBy_of_eq {b : Assignment} (h : b.name = a.name) : replaceBy a b = a :=
  if_pos (beq_iff_eq.mpr h)

theorem replaceBy_of_ne {b : Assignment} (h : b.name ≠ a.name) : replaceBy a b = b :=
  if_neg (h <| beq_iff_eq.mp ·)

/-- What depends on names alone does not see the replacement. -/
theorem comp_replaceBy {α : Type} (q : Text → α) (a : Assignment) :
    ((q ·.name) : Assignment → α) ∘ replaceBy a = (q ·.name) :=
  funext fun b => congrArg q (name_replaceBy a b)

theorem any_name_iff {name : Text} :
    known.any (·.name == name) = true ↔ name ∈ known.map (·.name) := by
  simp [List.any_eq_true]

theorem find?_name_eq_none_iff {name : Text} :
    known.find? (·.name == name) = none ↔ name ∉ known.map (·.name) := by
  simp [List.find?_eq_none]

theorem assign_of_mem (h : a.name ∈ known.map (·.name)) : assign known a = known.map (replaceBy a) :=
  if_pos (any_name_iff.mpr h)

theorem assign_of_not_mem (h : a.name ∉ known.map (·.name)) : assign known a = known ++ [a] :=
  if_neg (h <| any_name_iff.mp ·)

theorem names_assign_of_mem (h : a.name ∈ known.map (·.name)) :
    (assign known a).map (·.name) = known.map (·.name) := by
  rw [assign_of_mem h, List.map_map]
  exact congrArg (known.map ·) (comp_replaceBy id a)

theorem names_assign_of_not_mem (h : a.name ∉ known.map (·.name)) :
    (assign known a).map (·.name) = known.map (·.name) ++ [a.name] := by
  rw [assign_of_not_mem h, List.map_append]
  rfl

theorem find?_assign (known : List Assignment) (a : Assignment) (name : Text) :
    (assign known a).find? (·.name == name) =
      if a.name = name then some a else known.find? (·.name == name) := by
  by_cases hmem : a.name ∈ known.map (·.name)
  · rw [assign_of_mem hmem, List.find?_map, comp_replaceBy (· == name)]
    cases hfind : known.find? (·.name == name) with
    | none =>
        have hname : a.name ≠ name := fun h => find?_name_eq_none_iff.mp hfind (h ▸ hmem)
        rw [if_neg hname, Option.map_none]
    | some b =>
        have hb : b.name = name := beq_iff_eq.mp (List.find?_some hfind :)
        rw [Option.map_some]
        split
        next h => rw [replaceBy_of_eq (hb.trans h.symm)]
        next h => rw [replaceBy_of_ne (hb.trans_ne (Ne.symm h))]
  · rw [assign_of_not_mem hmem, List.find?_append, List.find?_singleton]
    by_cases h : a.name = name
    · rw [find?_name_eq_none_iff.mpr (h ▸ hmem), if_pos (beq_iff_eq.mpr h), if_pos h, Option.none_or]
    · rw [if_neg (h <| beq_iff_eq.mp ·), if_neg h, Option.or_none]

theorem filter_assign_of_false {p : Text → Bool} (h : p a.name = false) :
    (assign known a).filter (p ·.name) = known.filter (p ·.name) := by
  by_cases hmem : a.name ∈ known.map (·.name)
  · rw [assign_of_mem hmem, List.filter_map, comp_replaceBy p]
    refine (List.map_congr_left fun b hb => replaceBy_of_ne fun hname => ?_).trans (List.map_id' _)
    have hb : p b.name = true := (List.mem_filter.mp hb).2
    rw [hname, h] at hb
    cases hb
  · rw [assign_of_not_mem hmem, List.filter_append, List.filter_singleton, h, cond_false,
      List.append_nil]

theorem filter_assign_of_true {p : Text → Bool} (h : p a.name = true) :
    (assign known a).filter (p ·.name) = assign (known.filter (p ·.name)) a := by
  have hmem : a.name ∈ (known.filter (p ·.name)).map (·.name) ↔ a.name ∈ known.map (·.name) := by
    simp only [List.mem_map, List.mem_filter]
    exact exists_congr fun b =>
      ⟨fun hb => ⟨hb.1.1, hb.2⟩, fun hb => ⟨⟨hb.1, hb.2 ▸ h⟩, hb.2⟩⟩
  by_cases hknown : a.name ∈ known.map (·.name)
  · rw [assign_of_mem hknown, assign_of_mem (hmem.mpr hknown), List.filter_map, comp_replaceBy p]
  · rw [assign_of_not_mem hknown, assign_of_not_mem (hknown <| hmem.mp ·), List.filter_append,
      List.filter_singleton, h, cond_true]

/-! ### All assignments -/

theorem collapse_concat (as : List Assignment) (a : Assignment) :
    collapse (as ++ [a]) = assign (collapse as) a :=
  List.foldl_append

theorem eraseDups_concat_of_mem {names : List Text} {name : Text} (h : name ∈ names) :
    (names ++ [name]).eraseDups = names.eraseDups := by
  simp [List.eraseDups_append, List.removeAll, h]

theorem eraseDups_concat_of_not_mem {names : List Text} {name : Text} (h : name ∉ names) :
    (names ++ [name]).eraseDups = names.eraseDups ++ [name] := by
  simp [List.eraseDups_append, List.eraseDups_cons, List.removeAll, h]

/-- The names stand in the order in which they first occur. -/
theorem names_collapse (as : List Assignment) :
    (collapse as).map (·.name) = (as.map (·.name)).eraseDups := by
  induction as using List.reverseRecOn with
  | nil => rfl
  | append_singleton as a ih =>
      have hmem : a.name ∈ (collapse as).map (·.name) ↔ a.name ∈ as.map (·.name) := by
        rw [ih, List.mem_eraseDups]
      rw [collapse_concat, List.map_append, List.map_singleton]
      by_cases h : a.name ∈ as.map (·.name)
      · rw [names_assign_of_mem (hmem.mpr h), ih, eraseDups_concat_of_mem h]
      · rw [names_assign_of_not_mem (h <| hmem.mp ·), ih, eraseDups_concat_of_not_mem h]

theorem nodup_names_collapse (as : List Assignment) : ((collapse as).map (·.name)).Nodup := by
  induction as using List.reverseRecOn with
  | nil => exact List.nodup_nil
  | append_singleton as a ih =>
      rw [collapse_concat]
      by_cases h : a.name ∈ (collapse as).map (·.name)
      · rw [names_assign_of_mem h]
        exact ih
      · rw [names_assign_of_not_mem h]
        exact List.nodup_append_comm.mp (List.nodup_cons.mpr ⟨h, ih⟩)

theorem collapse_of_nodup (h : (known.map (·.name)).Nodup) : collapse known = known := by
  induction known using List.reverseRecOn with
  | nil => rfl
  | append_singleton known a ih =>
      rw [List.map_append] at h
      obtain ⟨ha, hknown⟩ := List.nodup_cons.mp (List.nodup_append_comm.mp h)
      rw [collapse_concat, ih hknown, assign_of_not_mem ha]

theorem collapse_collapse (as : List Assignment) : collapse (collapse as) = collapse as :=
  collapse_of_nodup (nodup_names_collapse as)

/-- The assignment to a name that counts is the last one. -/
theorem find?_collapse (as : List Assignment) (name : Text) :
    (collapse as).find? (·.name == name) = as.reverse.find? (·.name == name) := by
  induction as using List.reverseRecOn with
  | nil => rfl
  | append_singleton as a ih =>
      rw [collapse_concat, find?_assign, ih, List.reverse_concat, List.find?_cons]
      by_cases h : a.name = name
      · rw [if_pos h, beq_iff_eq.mpr h]
      · rw [if_neg h, beq_eq_false_iff_ne.mpr h]

/-- Assignments to some names are collapsed apart from the others. -/
theorem filter_collapse (p : Text → Bool) (as : List Assignment) :
    (collapse as).filter (p ·.name) = collapse (as.filter (p ·.name)) := by
  induction as using List.reverseRecOn with
  | nil => rfl
  | append_singleton as a ih =>
      rw [collapse_concat, List.filter_append]
      cases h : p a.name with
      | true => rw [filter_assign_of_true h, ih, List.filter_singleton, h, cond_true, collapse_concat]
      | false =>
          rw [filter_assign_of_false h, ih, List.filter_singleton, h, cond_false, List.append_nil]

theorem find?_name_of_mem (hnodup : (known.map (·.name)).Nodup) (ha : a ∈ known) :
    known.find? (·.name == a.name) = some a := by
  induction known with
  | nil => cases ha
  | cons b known ih =>
      obtain ⟨hb, hknown⟩ := List.nodup_cons.mp hnodup
      rcases List.mem_cons.mp ha with rfl | ha
      · rw [List.find?_cons, beq_self_eq_true]
      · have hne : b.name ≠ a.name := fun h => hb (List.mem_map.mpr ⟨a, ha, h.symm⟩)
        rw [List.find?_cons, beq_eq_false_iff_ne.mpr hne]
        exact ih hknown ha

/-- Each name in the order of first occurrence, with the last assignment to it. -/
theorem collapse_eq (as : List Assignment) :
    collapse as =
      (as.map (·.name)).eraseDups.filterMap fun name => as.reverse.find? (·.name == name) := by
  simp only [← find?_collapse, ← names_collapse, List.filterMap_map]
  symm
  calc (collapse as).filterMap _
    _ = (collapse as).filterMap some :=
        List.filterMap_congr fun a ha => find?_name_of_mem (nodup_names_collapse as) ha
    _ = collapse as := List.filterMap_some

end StaticSite.DotEnv
