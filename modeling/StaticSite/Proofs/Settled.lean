import StaticSite.FileSystem.RealPath
import StaticSite.Proofs.PathText

/-! Where links have come to an end. A location is settled if no link is seen on the way to it. A
resolution that is followed to its end leads to a settled location, and what a process then finds by
the path of this location stands at the location itself. Only a resolution that was cut short, which
takes a link that is met inside its own target, may lead elsewhere. -/

namespace StaticSite

@[simp] theorem mapError_ok {ε ε' α : Type} (f : ε → ε') (a : α) :
    (Except.ok a : Except ε α).mapError f = .ok a :=
  rfl

@[simp] theorem mapError_error {ε ε' α : Type} (f : ε → ε') (e : ε) :
    (Except.error e : Except ε α).mapError f = .error (f e) :=
  rfl

theorem exists_of_bind {ε α β : Type} {x : Except ε α} {f : α → Except ε β} {b : β}
    (h : x >>= f = .ok b) : ∃ a, x = .ok a ∧ f a = .ok b := by
  cases x with
  | error e => cases h
  | ok a => exact ⟨a, rfl, h⟩

theorem ok_of_mapError {ε ε' α : Type} {x : Except ε α} {f : ε → ε'} {a : α}
    (h : x.mapError f = .ok a) : x = .ok a := by
  cases x with
  | error e => cases h
  | ok b =>
      cases h
      rfl

/-- Whether a part of a path is the name of an entry, and not a way to say "here" or "above". -/
def Path.IsName (part : Text) : Prop :=
  part ≠ [] ∧ part ≠ Path.here ∧ part ≠ Path.above

theorem Path.IsName.leaves {part : Text} (h : Path.IsName part) :
    ¬ (part = [] ∨ part = Path.here) :=
  fun hpart => hpart.elim h.1 h.2.1

namespace FileSystem

variable {fs : FileSystem} {caller : Caller}

/-- A location to which the walk from the top gets without a link on the way. -/
def Reaches (fs : FileSystem) (caller : Caller) (l : Location) : Prop :=
  ∀ followLast jump rest, rest ≠ [] →
    fs.walkWith caller followLast jump [] (l ++ rest) = fs.walkWith caller followLast jump l rest

theorem reaches_nil : fs.Reaches caller [] :=
  fun _ _ _ _ => rfl

theorem checkDirectory_nil : fs.checkDirectory caller [] [] = .ok () := by
  simp [checkDirectory, find?, Entry.isDirectory]

/-- The step of a walk on a name that is there. -/
theorem walkWith_name {followLast : Bool} {jump : Location → Path → Except SystemError Location}
    {l : Location} {name : Name} {rest : Path} (hname : Path.IsName name)
    (hdir : fs.checkDirectory caller l name = .ok ()) (hsize : Utf8.size name ≤ maxNameSize) :
    fs.walkWith caller followLast jump l (name :: rest) =
      match fs.find? (l ++ [name]) with
      | none => .error .notFound
      | some ⟨.link target, _⟩ =>
          if rest.isEmpty ∧ !followLast then .ok (l ++ [name])
          else
            jump (if (Path.ofText target).isAbsolute then [] else l) (Path.ofText target ++ rest)
      | some _ => fs.walkWith caller followLast jump (l ++ [name]) rest := by
  rw [walkWith, hdir]
  exact (if_neg hname.leaves).trans
    ((if_neg hname.2.2).trans (if_neg (Nat.not_lt.mpr hsize)))

theorem walkWith_entry {followLast : Bool} {jump : Location → Path → Except SystemError Location}
    {l : Location} {name : Name} {rest : Path} {e : Entry} (hname : Path.IsName name)
    (hdir : fs.checkDirectory caller l name = .ok ()) (hsize : Utf8.size name ≤ maxNameSize)
    (he : fs.find? (l ++ [name]) = some e) (hlink : ∀ target mode, e ≠ ⟨.link target, mode⟩) :
    fs.walkWith caller followLast jump l (name :: rest) =
      fs.walkWith caller followLast jump (l ++ [name]) rest := by
  rw [walkWith_name hname hdir hsize, he]
  obtain ⟨node, mode⟩ := e
  cases node with
  | link target => exact absurd rfl (hlink target mode)
  | _ => rfl

/-- How a walk that comes to an end gets over the first part of a path. -/
inductive Advances (fs : FileSystem) (caller : Caller) (followLast : Bool)
    (jump : Location → Path → Except SystemError Location) (l : Location) (part : Text) (rest : Path)
    (q : Location) : Prop
  | stays (h : part = [] ∨ part = Path.here)
      (onwards : fs.walkWith caller followLast jump l rest = .ok q)
  | rises (h : part = Path.above)
      (onwards : fs.walkWith caller followLast jump l.dropLast rest = .ok q)
  | enters (named : Path.IsName part) (short : Utf8.size part ≤ maxNameSize) (e : Entry)
      (there : fs.find? (l ++ [part]) = some e) (unlinked : ∀ target mode, e ≠ ⟨.link target, mode⟩)
      (onwards : fs.walkWith caller followLast jump (l ++ [part]) rest = .ok q)
  | ends (named : Path.IsName part) (short : Utf8.size part ≤ maxNameSize) (target : Text) (mode : Nat)
      (there : fs.find? (l ++ [part]) = some ⟨.link target, mode⟩) (unfollowed : followLast = false)
  | jumps (named : Path.IsName part) (short : Utf8.size part ≤ maxNameSize) (target : Text) (mode : Nat)
      (there : fs.find? (l ++ [part]) = some ⟨.link target, mode⟩)
      (onwards : jump (if (Path.ofText target).isAbsolute then [] else l)
        (Path.ofText target ++ rest) = .ok q)

theorem advances_of_walkWith {followLast : Bool}
    {jump : Location → Path → Except SystemError Location} {l q : Location} {part : Text} {rest : Path}
    (hq : fs.walkWith caller followLast jump l (part :: rest) = .ok q) :
    fs.checkDirectory caller l part = .ok () ∧ fs.Advances caller followLast jump l part rest q := by
  rw [walkWith] at hq
  cases hdir : fs.checkDirectory caller l part with
  | error e =>
      rw [hdir] at hq
      cases hq
  | ok _ =>
      refine ⟨rfl, ?_⟩
      simp only [hdir] at hq
      by_cases hstays : part = [] ∨ part = Path.here
      · rw [if_pos hstays] at hq
        exact .stays hstays hq
      by_cases habove : part = Path.above
      · rw [if_neg hstays, if_pos habove] at hq
        exact .rises habove hq
      by_cases hlong : maxNameSize < Utf8.size part
      · rw [if_neg hstays, if_neg habove, if_pos hlong] at hq
        cases hq
      rw [if_neg hstays, if_neg habove, if_neg hlong] at hq
      have hname : Path.IsName part :=
        ⟨fun h => hstays (Or.inl h), fun h => hstays (Or.inr h), habove⟩
      have hshort : Utf8.size part ≤ maxNameSize := Nat.le_of_not_lt hlong
      cases he : fs.find? (l ++ [part]) with
      | none =>
          rw [he] at hq
          cases hq
      | some e =>
          rw [he] at hq
          obtain ⟨node, mode⟩ := e
          cases node with
          | link target =>
              cases followLast with
              | false => exact .ends hname hshort target mode he rfl
              | true =>
                  simp only [Bool.not_true, Bool.false_eq_true, and_false, if_false] at hq
                  exact .jumps hname hshort target mode he hq
          | _ => exact .enters hname hshort _ he (by simp) hq

theorem Reaches.concat {l : Location} {name : Name} {e : Entry} (h : fs.Reaches caller l)
    (hname : Path.IsName name) (hdir : fs.checkDirectory caller l name = .ok ())
    (hsize : Utf8.size name ≤ maxNameSize) (he : fs.find? (l ++ [name]) = some e)
    (hlink : ∀ target mode, e ≠ ⟨.link target, mode⟩) : fs.Reaches caller (l ++ [name]) := by
  intro followLast jump rest hrest
  rw [List.append_assoc, List.singleton_append, h followLast jump _ (List.cons_ne_nil _ _),
    walkWith_entry hname hdir hsize he hlink]

/-- A walk along the names of a location ends there, if it ends at all and none of what it meets is
a link. -/
theorem walkWith_of_unlinked {followLast : Bool}
    {jump : Location → Path → Except SystemError Location} (before : Location)
    {after q : Location} (hnames : ∀ name ∈ after, Path.IsName name) (hreach : fs.Reaches caller before)
    (hlinks : ∀ l name, l ++ [name] <+: before ++ after → fs.Reaches caller l →
      fs.checkDirectory caller l name = .ok () → Utf8.size name ≤ maxNameSize →
      ∀ target mode, fs.find? (l ++ [name]) ≠ some ⟨.link target, mode⟩)
    (hq : fs.walkWith caller followLast jump before after = .ok q) : q = before ++ after := by
  induction after generalizing before with
  | nil =>
      cases hq
      exact (List.append_nil _).symm
  | cons name rest ih =>
      have hname := hnames name List.mem_cons_self
      have hassoc : before ++ name :: rest = (before ++ [name]) ++ rest := by simp
      have hfirst : before ++ [name] <+: before ++ name :: rest := by
        rw [hassoc]
        exact List.prefix_append _ _
      obtain ⟨hdir, hadvances⟩ := advances_of_walkWith hq
      cases hadvances with
      | stays h => exact absurd h hname.leaves
      | rises h => exact absurd h hname.2.2
      | ends _ hsize target mode he =>
          exact absurd he (hlinks before name hfirst hreach hdir hsize target mode)
      | jumps _ hsize target mode he =>
          exact absurd he (hlinks before name hfirst hreach hdir hsize target mode)
      | enters _ hsize e he hlink honwards =>
          rw [hassoc] at hlinks ⊢
          exact ih _ (fun n hn => hnames n (List.mem_cons_of_mem _ hn))
            (hreach.concat hname hdir hsize he hlink) hlinks honwards

/-- The walk along the path of a location goes along its names. -/
theorem walkWith_path {followLast : Bool} {jump : Location → Path → Except SystemError Location}
    (l : Location) :
    fs.walkWith caller followLast jump [] (Location.path l) =
      fs.walkWith caller followLast jump [] l := by
  cases l with
  | nil => simp [Location.path, walkWith, checkDirectory_nil]
  | cons name rest => rw [Location.path, walkWith, checkDirectory_nil]; simp

end FileSystem

namespace Vantage

variable {v : Vantage}

/-- The path of an admissible location is located by walking along the names. -/
theorem locate_path (v : Vantage) (followLast : Bool) {l : Location}
    (h : Path.Admissible (Location.path l)) :
    ∃ jump, v.locate followLast (Location.path l) =
      (v.files.walkWith v.caller followLast jump [] l).mapError .system := by
  refine ⟨v.files.walk v.caller followLast 39, ?_⟩
  rw [locate_of_admissible h, start, if_pos (Location.path_isAbsolute l)]
  exact congrArg _ (FileSystem.walkWith_path l)

/-- A link at the end of a way without links is seen. -/
theorem linkAt?_of_reaches {l : Location} {name : Name} {target : Text} {mode : Nat}
    (hadm : Path.Admissible (Location.path (l ++ [name]))) (hreach : v.files.Reaches v.caller l)
    (hname : Path.IsName name) (hdir : v.files.checkDirectory v.caller l name = .ok ())
    (hsize : Utf8.size name ≤ maxNameSize)
    (he : v.files.find? (l ++ [name]) = some ⟨.link target, mode⟩) :
    v.linkAt? (l ++ [name]) = some target := by
  obtain ⟨jump, hlocate⟩ := locate_path v false hadm
  rw [linkAt?, hlocate, hreach _ _ _ (List.cons_ne_nil _ _),
    FileSystem.walkWith_name hname hdir hsize, he]
  simp [he]

/-- A location on the way to which no link is seen. -/
structure Settled (v : Vantage) (place : Location) : Prop where
  names : ∀ name ∈ place, Path.IsName name
  unlinked : ∀ l, l <+: place → v.linkAt? l = none

theorem Settled.of_prefix {l place : Location} (h : v.Settled place) (hl : l <+: place) :
    v.Settled l where
  names name hname := h.names name (hl.subset hname)
  unlinked l' hl' := h.unlinked l' (hl'.trans hl)

theorem Settled.concat {place : Location} {name : Name} (h : v.Settled place)
    (hname : Path.IsName name) (hlink : v.linkAt? (place ++ [name]) = none) :
    v.Settled (place ++ [name]) where
  names n hn := by
    rcases List.mem_append.mp hn with hn | hn
    · exact h.names n hn
    · rw [List.mem_singleton.mp hn]
      exact hname
  unlinked l hl := by
    rcases List.prefix_concat_iff.mp hl with hl | hl
    · rw [hl]
      exact hlink
    · exact h.unlinked l hl

/-- What is found by the path of a settled location stands at this location. -/
theorem Settled.locate_eq {place q : Location} (h : v.Settled place)
    (hq : v.locate true (Location.path place) = .ok q) : q = place := by
  have hadm := admissible_of_locate hq
  obtain ⟨jump, hlocate⟩ := locate_path v true hadm
  rw [hlocate] at hq
  cases hwalk : v.files.walkWith v.caller true jump [] place with
  | error e =>
      rw [hwalk] at hq
      cases hq
  | ok q' =>
      rw [hwalk] at hq
      cases hq
      refine FileSystem.walkWith_of_unlinked [] h.names FileSystem.reaches_nil ?_ hwalk
      intro l name hl hreach hdir hsize target mode he
      have hseen := linkAt?_of_reaches (hadm.of_prefix hl) hreach
        (h.names name (hl.subset (by simp))) hdir hsize he
      rw [h.unlinked _ hl] at hseen
      cases hseen

end Vantage

end StaticSite
