import StaticSite.FileSystem.Walk

/-! The text of a path, and what the system asks of it before it is followed: no null character, some
text at all, and no more bytes than it takes. What holds of the path of a location holds of all
locations on the way to it. -/

namespace StaticSite

theorem Text.joinWith_cons (sep part : Text) (parts : List Text) :
    Text.joinWith sep (part :: parts) = part ++ parts.flatMap (sep ++ ·) := by
  induction parts generalizing part with
  | nil => simp only [Text.joinWith, List.flatMap_nil, List.append_nil]
  | cons next parts ih =>
      rw [Text.joinWith, ih, List.flatMap_cons]
      simp only [List.append_assoc]

theorem Utf8.size_cons (c : Char) (t : Text) : Utf8.size (c :: t) = c.utf8Size + Utf8.size t :=
  rfl

theorem Utf8.size_append (s t : Text) : Utf8.size (s ++ t) = Utf8.size s + Utf8.size t := by
  induction s with
  | nil => exact (Nat.zero_add _).symm
  | cons c rest ih => rw [List.cons_append, size_cons, size_cons, ih, Nat.add_assoc]

namespace Location

/-- The text of the path of a location is its names, each after a slash. -/
theorem text_eq (l : Location) : Location.text l = if l = [] then ['/'] else l.flatMap ('/' :: ·) := by
  cases l with
  | nil => rfl
  | cons name rest =>
      rw [Location.text, Location.path, Path.text, Text.joinWith_cons, if_neg (List.cons_ne_nil _ _)]
      rfl

theorem text_ne_nil (l : Location) : Location.text l ≠ [] := by
  rw [text_eq]
  cases l with
  | nil => simp
  | cons name rest => simp [List.flatMap_cons]

/-- The text of a location is no shorter than that of one on the way to it. -/
theorem size_text_le {l l' : Location} (h : l <+: l') :
    Utf8.size (Location.text l) ≤ Utf8.size (Location.text l') := by
  obtain ⟨rest, rfl⟩ := h
  cases l with
  | nil =>
      cases rest with
      | nil => exact Nat.le_refl _
      | cons name rest =>
          rw [List.nil_append, text_eq, text_eq, if_pos rfl, if_neg (List.cons_ne_nil _ _),
            List.flatMap_cons, List.cons_append, Utf8.size_cons, Utf8.size_cons]
          exact Nat.add_le_add_left (Nat.zero_le _) _
  | cons name names =>
      rw [text_eq, text_eq, if_neg (List.cons_ne_nil _ _), if_neg (by simp), List.flatMap_append,
        Utf8.size_append]
      exact Nat.le_add_right _ _

theorem path_isAbsolute (l : Location) : Path.isAbsolute (Location.path l) = true := by
  cases l <;> rfl

end Location

/-- What is asked of a path before it is followed. -/
structure Path.Admissible (p : Path) : Prop where
  notNull : p.any (·.contains '\x00') = false
  notEmpty : p.text ≠ []
  short : Utf8.size p.text ≤ maxPathSize

theorem Path.any_null_path (l : Location) :
    (Location.path l).any (·.contains '\x00') = l.any (·.contains '\x00') := by
  cases l <;> rfl

theorem Path.Admissible.of_prefix {l l' : Location} (h : Path.Admissible (Location.path l'))
    (hl : l <+: l') : Path.Admissible (Location.path l) where
  notNull := by
    have hnull := h.notNull
    rw [Path.any_null_path] at hnull ⊢
    obtain ⟨rest, rfl⟩ := hl
    rw [List.any_append, Bool.or_eq_false_iff] at hnull
    exact hnull.1
  notEmpty := Location.text_ne_nil l
  short := Nat.le_trans (Location.size_text_le hl) h.short

namespace Vantage

variable {v : Vantage} {followLast : Bool} {p : Path}

theorem admissible_of_locate {q : Location} (h : v.locate followLast p = .ok q) : p.Admissible := by
  unfold locate at h
  split at h
  · cases h
  · split at h
    · cases h
    · split at h
      · cases h
      · rename_i hnull hempty hlong
        exact ⟨by simpa using hnull, hempty, Nat.le_of_not_lt hlong⟩

/-- What a path leads to stands where it leads. -/
theorem find?_of_stat {e : Entry} (h : v.stat p = .ok e) :
    ∃ q, v.locate true p = .ok q ∧ v.files.find? q = some e := by
  rw [stat] at h
  cases hq : v.locate true p with
  | error e' =>
      rw [hq] at h
      cases h
  | ok q =>
      rw [hq] at h
      refine ⟨q, rfl, ?_⟩
      cases hf : v.files.find? q with
      | none =>
          simp only [bind, Except.bind, hf] at h
          cases h
      | some e' =>
          simp only [bind, Except.bind, hf] at h
          cases h
          rfl

/-- An admissible path is located by walking along it. -/
theorem locate_of_admissible (h : p.Admissible) :
    v.locate followLast p =
      (v.files.walk v.caller followLast maxLinks (v.start p) p).mapError .system := by
  rw [locate, if_neg (by rw [h.notNull]; exact Bool.false_ne_true), if_neg h.notEmpty,
    if_neg (Nat.not_lt.mpr h.short)]
  cases v.files.walk v.caller followLast maxLinks (v.start p) p <;> rfl

end Vantage

end StaticSite
