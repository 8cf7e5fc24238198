import Mathlib.Data.List.Find
import StaticSite.Proofs.Precedence

/-! Variables of distinct names. Where no two names in a place are the same in lower case, the order in
which they stand makes no difference: each name has the one value that is given to it. -/

namespace StaticSite

/-- Of entries with distinct keys, the last with a key is the same one in every order. -/
theorem find?_reverse_of_perm {α : Type} {key : α → Text} {p : α → Bool} {entries entries' : List α}
    {name : Text} (h : entries.Perm entries') (hdistinct : (entries.map key).Nodup)
    (hkey : ∀ a, p a = true → key a = name) : entries.reverse.find? p = entries'.reverse.find? p := by
  have hreversed : entries.reverse.Perm entries'.reverse :=
    ((List.reverse_perm entries).trans h).trans (List.reverse_perm entries').symm
  apply List.find?_eq_find?_of_perm hreversed
  rintro a ⟨ha, hpa⟩ b ⟨hb, hpb⟩
  apply List.inj_on_of_nodup_map hdistinct (List.mem_reverse.mp ha) (List.mem_reverse.mp hb)
  rw [hkey a hpa, hkey b hpb]

/-- A result is told from what it is as an option. -/
theorem ok_of_toOption {ε α : Type} {x : Except ε α} {a : α} (h : x.toOption = some a) : x = .ok a := by
  cases x with
  | error e => cases h
  | ok b =>
      cases h
      rfl

theorem exists_of_isOk {ε α : Type} {result : Except ε α} (h : result.isOk = true) :
    ∃ a, result = .ok a := by
  cases result with
  | error e => cases h
  | ok a => exact ⟨a, rfl⟩

namespace Field

/-- The name of the variable for a field, as it is usually written. -/
def variableName (f : Field) : Text :=
  SourceOptions.standardStart ++ f.name.map Char.toUpper

theorem lower_variableName (f : Field) : f.variableName.lower = Place.file.nameOf f := by
  cases f <;> decide +kernel

theorem lower_name (f : Field) : f.name.lower = f.name := by
  cases f <;> decide +kernel

theorem eq_of_nameOf {f g : Field} {p : Place} (h : p.nameOf g = p.nameOf f) : g = f := by
  by_contra hne
  exact Offers.nameOf_ne hne p h

end Field

namespace Offers
variable {o o' : Offers} {p p' : Place}

theorem value?_of_perm (h : (o.entries p).Perm (o'.entries p'))
    (hdistinct : ((o.entries p).map (·.1.lower)).Nodup) (name : Text) :
    o.value? p name = o'.value? p' name := by
  rw [value?, value?, find?_reverse_of_perm h hdistinct fun a ha => beq_iff_eq.mp ha]

/-- A name has the value that is given to it in a place if there is no other entry for it. -/
theorem value?_of_mem {name : Text} {v : Option Value} (hmem : (name, v) ∈ o.entries p)
    (honly : ∀ entry ∈ o.entries p, entry.1.lower = name.lower → entry = (name, v)) :
    o.value? p name.lower = v := by
  rw [value?]
  cases hfind : (o.entries p).reverse.find? (·.1.lower == name.lower) with
  | none =>
      have hnot := List.find?_eq_none.mp hfind (name, v) (List.mem_reverse.mpr hmem)
      exact absurd (beq_self_eq_true _) hnot
  | some entry =>
      have hentry : entry = (name, v) :=
        honly entry (List.mem_reverse.mp (List.mem_of_find?_eq_some hfind))
          (beq_iff_eq.mp (List.find?_some hfind :))
      rw [hentry]
      rfl

end Offers

/-! ### Sources in which the same counts -/

namespace Sources
variable {s s' : Sources}

/-- What sources give depends on the value that counts for each field and on the names that stand for
nothing, and on nothing else in them. -/
theorem settings_congr (hchosen : ∀ f, s'.chosen? f = s.chosen? f) (hextras : s'.extras = s.extras)
    (standard : Settings) : s'.settings standard = s.settings standard := by
  have hfield : ∀ {α : Type} (f : Field) (a : α) (read : Value → Except Fault α),
      s'.field f a read = s.field f a read := by
    intro α f a read
    rw [field, field, hchosen]
  simp only [settings, hfield, hextras]

end Sources

end StaticSite
