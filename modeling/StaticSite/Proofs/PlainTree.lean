import StaticSite.Proofs.Lexical
import StaticSite.Proofs.Resolution
import StaticSite.Site.Lookup

/-! A tree without links in which nothing is denied. There each path leads where it says: its real
path is the path applied as it is written, and what is found there is the entry of this location. -/

namespace StaticSite

/-- A location whose path the system takes: it is no longer than that, and neither is any name. -/
structure Location.Fits (l : Location) : Prop where
  admissible : Path.Admissible (Location.path l)
  short : ∀ name ∈ l, Utf8.size name ≤ maxNameSize

theorem Location.Fits.of_prefix {l l' : Location} (h : Location.Fits l') (hl : l <+: l') :
    Location.Fits l where
  admissible := h.admissible.of_prefix hl
  short name hname := h.short name (hl.subset hname)

/-- How a look-up in a plain tree ends, by the place to which the path leads: outside the site, with
what is there or with nothing, or with an error where the system does not take the path. -/
inductive Site.Ends (v : Vantage) (top : Location) (p : Path) (place : Location) :
    Except Failure (Option Found) → Prop
  | outside (h : beginsWithBackslash p = true ∨ ¬ top <+: place) : Ends v top p place (.ok none)
  | absent (inside : top <+: place) (h : v.files.find? place = none) : Ends v top p place (.ok none)
  | found (e : Entry) (inside : top <+: place) (looked : beginsWithBackslash p = false)
      (clean : ∀ part ∈ p, part.contains '\x00' = false) (fits : Location.Fits place)
      (h : v.files.find? place = some e) :
      Ends v top p place (.ok (some ⟨place, e⟩))
  | null (part : Text) (h : part ∈ p) (contains : part.contains '\x00' = true) :
      Ends v top p place (.error .embeddedNull)
  | refused (e : PathError) (inside : top <+: place) (h : ¬ Location.Fits place)
      (refuses : e = .embeddedNull ∨ e = .system .nameTooLong) :
      Ends v top p place (.error (e.failure (Location.text place)))

namespace Vantage

variable {v : Vantage}

/-- A process in a tree without links, to which nothing is denied. -/
structure Plain (v : Vantage) : Prop where
  grounded : v.Grounded
  unlinked : ∀ l target mode, v.files.find? l ≠ some ⟨.link target, mode⟩
  allowed : ∀ l e, v.files.find? l = some e →
    e.allows v.caller readBit = true ∧ e.allows v.caller searchBit = true

/-- Whether a process is in a tree without links, to which nothing is denied, as its entries tell. -/
def isPlain (v : Vantage) : Bool :=
  v.isGrounded && v.files.entries.all fun (_, e) =>
    (match e.node with
      | .link _ => false
      | _ => true) && e.allows v.caller readBit && e.allows v.caller searchBit

theorem plain_of_isPlain (h : v.isPlain = true) : v.Plain := by
  rw [isPlain, Bool.and_eq_true, List.all_eq_true] at h
  obtain ⟨hground, hentries⟩ := h
  refine ⟨grounded_of_isGrounded hground, fun l target mode he => ?_, fun l e he => ?_⟩
  · have hl : l ≠ [] := by
      rintro rfl
      cases he
    have := hentries _ (FileSystem.mem_entries_of_find? hl he)
    simp at this
  · by_cases hl : l = []
    · rw [hl] at he
      cases he
      cases v.caller <;> decide
    · have := hentries _ (FileSystem.mem_entries_of_find? hl he)
      simp only [Bool.and_eq_true] at this
      exact ⟨this.1.2, this.2⟩

/-- Above whatever there is, there is a directory. -/
theorem Grounded.directory_above (h : v.Grounded) {l rest : Location} {e : Entry}
    (he : v.files.find? (l ++ rest) = some e) (hrest : rest ≠ []) :
    ∃ d, v.files.find? l = some d ∧ d.isDirectory = true := by
  rw [← List.dropLast_concat_getLast hrest, ← List.append_assoc] at he
  obtain ⟨d, hd, hdir⟩ := h.parent _ _ _ he
  exact h.directory_of_prefix (List.prefix_append _ _) hd hdir

theorem Grounded.isName_applyTo (h : v.Grounded) (p : Path) :
    ∀ name ∈ Path.applyTo v.workingDirectory p, Path.IsName name := by
  refine Path.isName_foldl_enter ?_ _
  split
  · intro name hname
    cases hname
  · obtain ⟨d, hd, -⟩ := h.workingDirectory
    exact h.isName hd

namespace Plain

theorem linkAt?_eq (h : v.Plain) (l : Location) : v.linkAt? l = none := by
  rw [linkAt?]
  cases v.locate false (Location.path l) with
  | error e => rfl
  | ok found =>
      cases hf : v.files.find? found with
      | none => simp only [hf]
      | some e =>
          obtain ⟨node, mode⟩ := e
          cases node with
          | link target => exact absurd hf (h.unlinked _ _ _)
          | _ => simp only [hf]

/-- Resolving applies the path as it is written. -/
theorem resolveWith_eq (h : v.Plain) (follow : Met → Location → Path → Except PathError Resolution)
    (met : Met) (place : Location) {path : Path} (hnull : ∀ part ∈ path, part.contains '\x00' = false) :
    v.resolveWith follow met place path = .ok ⟨path.foldl Path.enter place, true, met⟩ := by
  induction path generalizing place with
  | nil => rfl
  | cons part rest ih =>
      have hrest := fun place => ih place fun p hp => hnull p (List.mem_cons_of_mem _ hp)
      rw [resolveWith, List.foldl_cons, hnull part List.mem_cons_self]
      by_cases hstays : part = [] ∨ part = Path.here
      · rw [if_pos hstays, hrest, Path.enter_of_stays hstays]
      · rw [if_neg hstays]
        by_cases habove : part = Path.above
        · rw [if_pos habove, hrest, habove, Path.enter_above]
        · rw [if_neg habove, if_neg Bool.false_ne_true]
          simp only [h.linkAt?_eq]
          rw [hrest, Path.enter_name
            ⟨fun h => hstays (Or.inl h), fun h => hstays (Or.inr h), habove⟩]

/-- A path with a null character is not resolved. -/
theorem resolveWith_null (h : v.Plain) (follow : Met → Location → Path → Except PathError Resolution)
    (met : Met) (place : Location) {path : Path} {part : Text} (hpart : part ∈ path)
    (hnull : part.contains '\x00' = true) :
    v.resolveWith follow met place path = .error .embeddedNull := by
  induction path generalizing place with
  | nil => cases hpart
  | cons first rest ih =>
      rw [resolveWith]
      by_cases hfirst : first.contains '\x00' = true
      · have hleads : ∀ other : Text, other.contains '\x00' = false → first ≠ other := by
          rintro other hother rfl
          rw [hfirst] at hother
          cases hother
        rw [if_neg (by rintro (h | h) <;> exact hleads _ (by decide) h),
          if_neg (hleads _ (by decide)), if_pos hfirst]
      · have hrest : part ∈ rest := by
          refine (List.mem_cons.mp hpart).resolve_left ?_
          rintro rfl
          exact hfirst hnull
        simp only [h.linkAt?_eq, hfirst, ih _ hrest, Bool.false_eq_true, ite_self]

theorem realPath_eq (h : v.Plain) {p : Path} (hnull : ∀ part ∈ p, part.contains '\x00' = false) :
    v.realPath p = .ok (Path.applyTo v.workingDirectory p) := by
  rw [realPath]
  cases v.files.linkCount with
  | zero => rw [resolve, h.resolveWith_eq _ _ _ hnull]; rfl
  | succ depth => rw [resolve, h.resolveWith_eq _ _ _ hnull]; rfl

theorem realPath_null (h : v.Plain) {p : Path} {part : Text} (hpart : part ∈ p)
    (hnull : part.contains '\x00' = true) : v.realPath p = .error .embeddedNull := by
  rw [realPath]
  cases v.files.linkCount with
  | zero => rw [resolve, h.resolveWith_null _ _ _ hpart hnull]; rfl
  | succ depth => rw [resolve, h.resolveWith_null _ _ _ hpart hnull]; rfl

/-- A walk along names ends where they lead, if something is there and no name is too long. -/
theorem walkWith_cases (h : v.Plain) (followLast : Bool)
    (jump : Location → Path → Except SystemError Location) (before : Location) {after : Location}
    (hnames : ∀ name ∈ after, Path.IsName name) {e : Entry} (he : v.files.find? before = some e) :
    ((∃ e, v.files.find? (before ++ after) = some e) ∧
        (∀ name ∈ after, Utf8.size name ≤ maxNameSize) ∧
        v.files.walkWith v.caller followLast jump before after = .ok (before ++ after)) ∨
      (v.files.find? (before ++ after) = none ∧
        (v.files.walkWith v.caller followLast jump before after = .error .notFound ∨
          v.files.walkWith v.caller followLast jump before after = .error .notDirectory)) ∨
      ((∃ name ∈ after, maxNameSize < Utf8.size name) ∧
        v.files.walkWith v.caller followLast jump before after = .error .nameTooLong) := by
  induction after generalizing before e with
  | nil =>
      left
      rw [List.append_nil]
      exact ⟨⟨e, he⟩, nofun, rfl⟩
  | cons name rest ih =>
      have hname := hnames name List.mem_cons_self
      cases hdir : e.isDirectory with
      | false =>
          right
          left
          constructor
          · cases hf : v.files.find? (before ++ name :: rest) with
            | none => rfl
            | some e' =>
                obtain ⟨d, hd, hdd⟩ := h.grounded.directory_above hf (List.cons_ne_nil _ _)
                rw [he] at hd
                cases hd
                rw [hdir] at hdd
                cases hdd
          · right
            simp [FileSystem.walkWith, FileSystem.checkDirectory, he, hdir]
      | true =>
          have hcheck : v.files.checkDirectory v.caller before name = .ok () := by
            simp [FileSystem.checkDirectory, he, hdir, (h.allowed _ _ he).2]
          have hassoc : before ++ name :: rest = (before ++ [name]) ++ rest := by simp
          by_cases hsize : Utf8.size name ≤ maxNameSize
          · cases hf : v.files.find? (before ++ [name]) with
            | none =>
                right
                left
                constructor
                · cases hall : v.files.find? (before ++ name :: rest) with
                  | none => rfl
                  | some e' =>
                      rw [hassoc] at hall
                      cases rest with
                      | nil =>
                          rw [List.append_nil, hf] at hall
                          cases hall
                      | cons next rest =>
                          obtain ⟨d, hd, -⟩ :=
                            h.grounded.directory_above hall (List.cons_ne_nil _ _)
                          rw [hf] at hd
                          cases hd
                · left
                  rw [FileSystem.walkWith_name hname hcheck hsize, hf]
            | some d =>
                have hlink : ∀ target mode, d ≠ ⟨.link target, mode⟩ := by
                  rintro target mode rfl
                  exact h.unlinked _ _ _ hf
                rw [FileSystem.walkWith_entry hname hcheck hsize hf hlink, hassoc]
                rcases ih _ (fun n hn => hnames n (List.mem_cons_of_mem _ hn)) hf with
                  ⟨hfound, hshort, hwalk⟩ | hmissing | ⟨⟨long, hlong, hsize'⟩, hwalk⟩
                · refine Or.inl ⟨hfound, fun n hn => ?_, hwalk⟩
                  rcases List.mem_cons.mp hn with rfl | hn
                  · exact hsize
                  · exact hshort n hn
                · exact Or.inr (Or.inl hmissing)
                · exact Or.inr (Or.inr ⟨⟨long, List.mem_cons_of_mem _ hlong, hsize'⟩, hwalk⟩)
          · right
            right
            refine ⟨⟨name, List.mem_cons_self, Nat.lt_of_not_le hsize⟩, ?_⟩
            rw [FileSystem.walkWith, hcheck]
            simp only
            rw [if_neg hname.leaves, if_neg hname.2.2, if_pos (Nat.lt_of_not_le hsize)]

/-- What is at a location is found by its path, if the system takes that; that nothing is there is
found too. -/
theorem stat_cases (h : v.Plain) {l : Location} (hnames : ∀ name ∈ l, Path.IsName name) :
    (∃ e, v.files.find? l = some e ∧ Location.Fits l ∧ v.stat (Location.path l) = .ok e) ∨
      (v.files.find? l = none ∧ (v.stat (Location.path l) = .error (.system .notFound) ∨
        v.stat (Location.path l) = .error (.system .notDirectory))) ∨
      (¬ Location.Fits l ∧ (v.stat (Location.path l) = .error .embeddedNull ∨
        v.stat (Location.path l) = .error (.system .nameTooLong))) := by
  by_cases hadmissible : Path.Admissible (Location.path l)
  · obtain ⟨jump, hlocate⟩ := locate_path v true hadmissible
    rw [stat, hlocate]
    rcases h.walkWith_cases true jump [] hnames rfl with
      ⟨⟨e, he⟩, hshort, hwalk⟩ | ⟨he, hwalk⟩ | ⟨⟨name, hname, hsize⟩, hwalk⟩
    · left
      rw [List.nil_append] at he hwalk
      rw [hwalk]
      exact ⟨e, he, ⟨hadmissible, hshort⟩, by simp [bind, Except.bind, he]⟩
    · right
      left
      rw [List.nil_append] at he
      refine ⟨he, ?_⟩
      rcases hwalk with hwalk | hwalk <;> rw [hwalk]
      · exact Or.inl rfl
      · exact Or.inr rfl
    · right
      right
      rw [hwalk]
      exact ⟨fun hfits => absurd (hfits.short name hname) (Nat.not_le_of_lt hsize), Or.inr rfl⟩
  · right
    right
    refine ⟨fun hfits => hadmissible hfits.admissible, ?_⟩
    have htext : (Location.path l).text ≠ [] := Location.text_ne_nil l
    rw [stat, locate]
    by_cases hnull : (Location.path l).any (·.contains '\x00') = true
    · rw [if_pos hnull]
      exact Or.inl rfl
    · have hsize : maxPathSize < Utf8.size (Location.path l).text :=
        Nat.lt_of_not_le fun hle =>
          hadmissible ⟨Bool.eq_false_iff.mpr hnull, htext, hle⟩
      rw [if_neg hnull, if_neg htext, if_pos hsize]
      exact Or.inr rfl

/-- A site finds below its directory what the path leads to as it is written. -/
theorem lookup_ends (h : v.Plain) {root : Path} {top : Location} (hroot : root.text ≠ [])
    (hnull : ∀ part ∈ root, part.contains '\x00' = false)
    (htop : Path.applyTo v.workingDirectory root = top) (p : Path) :
    Site.Ends v top p (p.foldl Path.enter top) (Site.lookup v root p) := by
  have hwhole : Path.applyTo v.workingDirectory (root ++ p) = p.foldl Path.enter top := by
    rw [Path.applyTo, Path.isAbsolute_append hroot, List.foldl_append]
    exact congrArg (p.foldl Path.enter) htop
  have hnames : ∀ name ∈ p.foldl Path.enter top, Path.IsName name :=
    hwhole ▸ h.grounded.isName_applyTo _
  rw [Site.lookup]
  cases hbackslash : Site.beginsWithBackslash p with
  | true => exact .outside (Or.inl hbackslash)
  | false =>
      rw [if_neg Bool.false_ne_true]
      by_cases hparts : ∃ part ∈ p, part.contains '\x00' = true
      · obtain ⟨part, hpart, hcontains⟩ := hparts
        rw [h.realPath_null (List.mem_append_right _ hpart) hcontains]
        exact .null part hpart hcontains
      · have hall : ∀ part ∈ root ++ p, part.contains '\x00' = false := by
          intro part hpart
          rcases List.mem_append.mp hpart with hpart | hpart
          · exact hnull part hpart
          · exact Bool.eq_false_iff.mpr fun hcontains => hparts ⟨part, hpart, hcontains⟩
        rw [h.realPath_eq hall, h.realPath_eq hnull, hwhole, htop]
        simp only
        split
        · rename_i hprefix
          have hinside := List.isPrefixOf_iff_prefix.mp hprefix
          rw [Site.statPlace]
          rcases h.stat_cases hnames with
            ⟨e, he, hfits, hstat⟩ | ⟨he, hstat | hstat⟩ | ⟨hfits, hstat | hstat⟩
          all_goals rw [hstat]
          · have hclean : ∀ part ∈ p, part.contains '\x00' = false :=
              fun part hpart => hall part (List.mem_append_right _ hpart)
            exact .found e hinside hbackslash hclean hfits he
          · exact .absent hinside he
          · exact .absent hinside he
          · exact .refused .embeddedNull hinside hfits (Or.inl rfl)
          · exact .refused (.system .nameTooLong) hinside hfits (Or.inr rfl)
        · rename_i hprefix
          exact .outside (Or.inr fun hinside => hprefix (List.isPrefixOf_iff_prefix.mpr hinside))

end Plain

end Vantage

end StaticSite
