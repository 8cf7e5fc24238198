import StaticSite.Proofs.Settled

/-! Where a path leads. It is followed part by part, each time from a directory that may be searched, and
a link on it is replaced by its target, so many times at most. What a process finds by a path is the
entry to which the path leads in this sense, and nothing else. -/

namespace StaticSite

namespace FileSystem

variable {fs : FileSystem} {caller : Caller}

/-- A directory from which a caller may go on by a part of a path: it may search the directory, unless
the part is empty. -/
def Passable (fs : FileSystem) (caller : Caller) (place : Location) (part : Text) : Prop :=
  ∃ e, fs.find? place = some e ∧ e.node = .directory ∧
    (part = [] ∨ e.allows caller searchBit = true)

/-- Where a path leads from a directory, through at most so many links. -/
inductive Leads (fs : FileSystem) (caller : Caller) : Nat → Location → Path → Location → Prop
  | arrives (links : Nat) (place : Location) : Leads fs caller links place [] place
  | stays {links : Nat} {place q : Location} {part : Text} {rest : Path}
      (passable : fs.Passable caller place part) (h : part = [] ∨ part = Path.here)
      (onwards : Leads fs caller links place rest q) : Leads fs caller links place (part :: rest) q
  | rises {links : Nat} {place q : Location} {rest : Path}
      (passable : fs.Passable caller place Path.above)
      (onwards : Leads fs caller links place.dropLast rest q) :
      Leads fs caller links place (Path.above :: rest) q
  | enters {links : Nat} {place q : Location} {name : Name} {rest : Path} {e : Entry}
      (passable : fs.Passable caller place name) (named : Path.IsName name)
      (short : Utf8.size name ≤ maxNameSize) (there : fs.find? (place ++ [name]) = some e)
      (unlinked : ∀ target mode, e ≠ ⟨.link target, mode⟩)
      (onwards : Leads fs caller links (place ++ [name]) rest q) :
      Leads fs caller links place (name :: rest) q
  | jumps {links : Nat} {place q : Location} {name : Name} {rest : Path} {target : Text} {mode : Nat}
      (passable : fs.Passable caller place name) (named : Path.IsName name)
      (short : Utf8.size name ≤ maxNameSize)
      (there : fs.find? (place ++ [name]) = some ⟨.link target, mode⟩)
      (onwards : Leads fs caller links (if (Path.ofText target).isAbsolute then [] else place)
        (Path.ofText target ++ rest) q) :
      Leads fs caller (links + 1) place (name :: rest) q

theorem checkDirectory_eq_ok_iff {place : Location} {part : Text} :
    fs.checkDirectory caller place part = .ok () ↔ fs.Passable caller place part := by
  unfold checkDirectory Passable
  cases fs.find? place with
  | none => simp
  | some e =>
      by_cases hdir : e.node = .directory
      · by_cases hallowed : part = [] ∨ e.allows caller searchBit = true
        · simp [Entry.isDirectory, hdir, hallowed]
        · simp [Entry.isDirectory, hdir, hallowed]
      · simp [Entry.isDirectory, hdir]

/-- How a walk goes on behind a link: with one link less, if there is one left. -/
def behindLink (fs : FileSystem) (caller : Caller) (followLast : Bool) :
    Nat → Location → Path → Except SystemError Location
  | 0 => fun _ _ => .error .tooManyLinks
  | links + 1 => fs.walk caller followLast links

theorem walk_eq_walkWith (links : Nat) (followLast : Bool) :
    fs.walk caller followLast links =
      fs.walkWith caller followLast (fs.behindLink caller followLast links) := by
  cases links <;> rfl

/-- A walk that ends has gone where the path leads, if this holds of what stands behind its links. -/
theorem leads_of_walkWith {links : Nat} {jump : Location → Path → Except SystemError Location}
    (hjump : ∀ start p q, jump start p = .ok q →
      ∃ fewer, links = fewer + 1 ∧ fs.Leads caller fewer start p q)
    {place q : Location} {p : Path} (hq : fs.walkWith caller true jump place p = .ok q) :
    fs.Leads caller links place p q := by
  induction p generalizing place with
  | nil =>
      cases hq
      exact .arrives links _
  | cons part rest ih =>
      obtain ⟨hdir, hadvances⟩ := advances_of_walkWith hq
      have hpassable := checkDirectory_eq_ok_iff.mp hdir
      cases hadvances with
      | stays hstays honwards => exact .stays hpassable hstays (ih honwards)
      | rises habove honwards =>
          subst habove
          exact .rises hpassable (ih honwards)
      | enters hname hshort e he hlink honwards =>
          exact .enters hpassable hname hshort he hlink (ih honwards)
      | ends _ _ _ _ _ hunfollowed => cases hunfollowed
      | jumps hname hshort target mode he honwards =>
          obtain ⟨fewer, rfl, hfewer⟩ := hjump _ _ _ honwards
          exact .jumps hpassable hname hshort he hfewer

theorem leads_of_walk {links : Nat} {place q : Location} {p : Path}
    (hq : fs.walk caller true links place p = .ok q) : fs.Leads caller links place p q := by
  -- By induction on the links that are left: behind a link there is one less.
  induction links generalizing place q p with
  | zero =>
      rw [walk_eq_walkWith] at hq
      refine leads_of_walkWith ?_ hq
      intro start p q h
      cases h
  | succ links ih =>
      rw [walk_eq_walkWith] at hq
      refine leads_of_walkWith ?_ hq
      intro start p q h
      exact ⟨links, rfl, ih h⟩

theorem walk_of_leads {links : Nat} {place q : Location} {p : Path}
    (h : fs.Leads caller links place p q) : fs.walk caller true links place p = .ok q := by
  induction h with
  | arrives links place =>
      rw [walk_eq_walkWith]
      rfl
  | stays hpassable hstays _ ih =>
      rw [walk_eq_walkWith] at ih ⊢
      rw [walkWith, checkDirectory_eq_ok_iff.mpr hpassable]
      exact (if_pos hstays).trans ih
  | rises hpassable _ ih =>
      rw [walk_eq_walkWith] at ih ⊢
      rw [walkWith, checkDirectory_eq_ok_iff.mpr hpassable]
      exact (if_neg (by decide)).trans ((if_pos rfl).trans ih)
  | enters hpassable hname hshort he hlink _ ih =>
      rw [walk_eq_walkWith] at ih ⊢
      rw [walkWith_entry hname (checkDirectory_eq_ok_iff.mpr hpassable) hshort he hlink, ih]
  | jumps hpassable hname hshort he _ ih =>
      rw [walk_eq_walkWith, walkWith_name hname (checkDirectory_eq_ok_iff.mpr hpassable) hshort, he]
      simp only [Bool.not_true, Bool.false_eq_true, and_false, if_false]
      exact ih

/-- A walk ends exactly where the path leads. -/
theorem walk_eq_ok_iff {links : Nat} {place q : Location} {p : Path} :
    fs.walk caller true links place p = .ok q ↔ fs.Leads caller links place p q :=
  ⟨leads_of_walk, walk_of_leads⟩

end FileSystem

namespace Vantage

variable {v : Vantage} {p : Path} {e : Entry}

/-- The entry to which a path leads that the system takes. -/
def LeadsTo (v : Vantage) (p : Path) (e : Entry) : Prop :=
  p.Admissible ∧ ∃ q, v.files.Leads v.caller maxLinks (v.start p) p q ∧ v.files.find? q = some e

/-- What is found by a path is the entry to which it leads. -/
theorem stat_eq_ok_iff : v.stat p = .ok e ↔ v.LeadsTo p e := by
  have hlocate : ∀ q, p.Admissible →
      (v.locate true p = .ok q ↔ v.files.Leads v.caller maxLinks (v.start p) p q) := by
    intro q hadmissible
    rw [locate_of_admissible hadmissible, ← FileSystem.walk_eq_ok_iff]
    cases v.files.walk v.caller true maxLinks (v.start p) p <;> simp
  constructor
  · intro h
    obtain ⟨q, hq, he⟩ := find?_of_stat h
    have hadmissible := admissible_of_locate hq
    exact ⟨hadmissible, q, (hlocate q hadmissible).mp hq, he⟩
  · rintro ⟨hadmissible, q, hleads, he⟩
    rw [stat, (hlocate q hadmissible).mpr hleads]
    simp only [bind, Except.bind, he]

/-- A path leads to one entry only. -/
theorem LeadsTo.unique {e' : Entry} (h : v.LeadsTo p e) (h' : v.LeadsTo p e') : e = e' := by
  rw [← stat_eq_ok_iff] at h h'
  rw [h] at h'
  exact Except.ok.inj h'

end Vantage

end StaticSite
