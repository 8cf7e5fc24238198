import StaticSite.Proofs.Collapse
import StaticSite.Settings.Sources

/-! Which value each setting takes. Arguments come before the environment, this before the file of
assignments, and each field takes what the first of them gives it: nothing that a later one says of
the field, be it good or not, has a part in the settings or in what is wrong with them. -/

namespace StaticSite

/-! ### Fields and their values -/

namespace Field

theorem mem_all (f : Field) : f ∈ all := by
  cases f <;> decide

/-- A value as a field understands it. -/
def read : Field → Value → Except Fault Value
  | host, v => v.readText.map .text
  | port, v => v.readInt.map .int
  | rootDir, v => v.readPath.map .text
  | urlPrefix, v => v.readText.map .text
  | htmlIndex, v => v.readBool.map .bool
  | logLevel, v => v.readText.map .text

end Field

/-- The value of a field. -/
def Settings.value (s : Settings) : Field → Value
  | .host => .text s.host
  | .port => .int s.port
  | .rootDir => .text s.rootDir
  | .urlPrefix => .text s.urlPrefix
  | .htmlIndex => .bool s.htmlIndex
  | .logLevel => .text s.logLevel

/-! ### What is offered -/

/-- Where a value may be given. -/
inductive Place where
  | arguments
  | environment
  | file
  deriving DecidableEq

namespace Place

/-- All places, each before those that it comes before. -/
def all : List Place :=
  [arguments, environment, file]

/-- The name of a field in a place, in lower case. -/
def nameOf : Place → Field → Text
  | arguments, f => f.name
  | _, f => Text.lower (SourceOptions.standardStart ++ f.name)

end Place

/-- What is given in each of the places. -/
@[ext] structure Offers where
  arguments : List (Text × Value)
  environment : List (Text × Text)
  file : List DotEnv.Assignment

namespace Offers

/-- The names in a place with their values, of which the last for a name counts. In the file a name
need not have a value, and each spelling stands where it first occurs, with what it is given last. -/
def entries (o : Offers) : Place → List (Text × Option Value)
  | .arguments => o.arguments.reverse.map fun (name, v) => (name, some v)
  | .environment => o.environment.map fun (name, t) => (name, some (.text t))
  | .file =>
      (o.file.map (·.name)).eraseDups.filterMap fun name =>
        (o.file.reverse.find? (·.name == name)).map fun a => (a.name, a.value.map .text)

/-- The value that a place gives to a name in lower case. -/
def value? (o : Offers) (p : Place) (name : Text) : Option Value :=
  ((o.entries p).reverse.find? (·.1.lower == name)).bind (·.2)

/-- The value that a place gives to a field. -/
def given? (o : Offers) (p : Place) (f : Field) : Option Value :=
  o.value? p (p.nameOf f)

/-- The value of a field that counts: that of the first place that gives one. -/
def chosen? (o : Offers) (f : Field) : Option Value :=
  Place.all.findSome? (o.given? · f)

/-- What a field takes: the value that counts as it is understood, or else the standard one. -/
def taken (o : Offers) (standard : Settings) (f : Field) : Except Rejection Value :=
  match o.chosen? f with
  | none => .ok (standard.value f)
  | some v => (f.read v).mapError (⟨f.name, ·, v⟩)

/-- What is wrong with the value that counts for a field, if anything. -/
def fault? (o : Offers) (f : Field) : Option Rejection :=
  (o.chosen? f).bind fun v =>
    match f.read v with
    | .ok _ => none
    | .error fault => some ⟨f.name, fault, v⟩

/-- Whether a name in lower case stands for a field in the file, or is passed over there since it is
the plain name of one. -/
def isKnown (name : Text) : Bool :=
  Field.all.any fun f => f.name == name || Place.file.nameOf f == name

/-- The names of the file that stand for nothing with their values, in lower case and in the order in
which they first occur. One with an empty value does not count. -/
def unknownAssignments (o : Offers) : List (Text × Value) :=
  ((o.entries .file).map (·.1.lower)).eraseDups.filterMap fun name =>
    if isKnown name then none else ((o.value? .file name).filter Value.isTrue).map (name, ·)

/-- The arguments that stand for nothing, as they are written. -/
def unknownArguments (o : Offers) : List (Text × Value) :=
  o.arguments.filter fun (name, _) => !Field.all.any (·.name == name.lower)

/-- No name that stands for nothing is both in the file and among the arguments. -/
def Apart (o : Offers) : Prop :=
  ∀ a ∈ o.unknownArguments, ∀ b ∈ o.unknownAssignments, a.1 ≠ b.1

/-- All that is wrong with offers: the values that count, in the order of fields, then the names that
stand for nothing, first those of the file. -/
def rejections (o : Offers) : List Rejection :=
  Field.all.filterMap o.fault? ++
    (o.unknownAssignments ++ o.unknownArguments).map fun (name, v) => ⟨name, .extraForbidden, v⟩

/-- Offers without what places after one say of a field. -/
def exceptBelow (o : Offers) (f : Field) : Place → Offers
  | .arguments =>
      { o with
        environment := o.environment.filter fun (name, _) =>
          name.lower != Place.environment.nameOf f
        file := o.file.filter fun a => a.name.lower != Place.file.nameOf f }
  | .environment =>
      { o with file := o.file.filter fun a => a.name.lower != Place.file.nameOf f }
  | .file => o

end Offers

/-! ### Sources where nothing else is asked for -/

/-- The options where no argument asks for others. -/
def SourceOptions.standard : SourceOptions :=
  ⟨standardStart, true, false, false, none⟩

namespace Offers
variable (o : Offers)

/-- Offers as sources. -/
def sources : Sources :=
  { options := .standard, commandLine := [], arguments := o.arguments
    environment := o.environment, files := [o.file], secrets := [] }

theorem entries_file :
    o.entries .file = (DotEnv.collapse o.file).map fun a => (a.name, a.value.map .text) := by
  rw [DotEnv.collapse_eq, List.map_filterMap, entries]

/-- The assignments of the file to names in lower case, one for each name. -/
def assignments : List DotEnv.Assignment :=
  DotEnv.collapse ((DotEnv.collapse o.file).map fun a => { a with name := a.name.lower })

theorem assignments_sources : o.sources.assignments = o.assignments := by
  have hcounting : (DotEnv.collapse o.file).filter (fun a => a.value.all SourceOptions.standard.counts) =
      DotEnv.collapse o.file :=
    List.filter_eq_self.mpr fun a _ => by cases a.value <;> rfl
  have hfile : o.sources.ofFile o.file = o.assignments := by
    rw [Sources.ofFile]
    exact congrArg DotEnv.collapse (congrArg (List.map _) hcounting)
  rw [Sources.assignments]
  show DotEnv.collapse ([o.file].flatMap o.sources.ofFile) = _
  rw [List.flatMap_singleton, hfile]
  exact DotEnv.collapse_collapse _

theorem find?_assignments (name : Text) :
    (o.assignments.find? (·.name == name)).bind (·.value.map .text) = o.value? .file name := by
  rw [assignments, DotEnv.find?_collapse, ← List.map_reverse, List.find?_map, Option.bind_map,
    value?, entries_file, ← List.map_reverse, List.find?_map, Option.bind_map]
  rfl

/-! ### The value that counts -/

theorem argument?_sources (f : Field) : o.sources.argument? f = o.given? .arguments f := by
  rw [Sources.argument?, given?, value?, entries, ← List.map_reverse, List.reverse_reverse,
    List.find?_map, Option.bind_map, Option.map_eq_bind]
  rfl

theorem supplied?_sources (f : Field) :
    (o.sources.supplied? f).map .text = o.given? .environment f := by
  rw [Sources.supplied?, given?, value?, entries, ← List.map_reverse, List.find?_map,
    Option.bind_map, Option.map_map, Option.map_eq_bind]
  have hcounts : (fun (name, value) => o.sources.options.fold name == o.sources.options.variableName f &&
      o.sources.options.counts value : Text × Text → Bool) =
      fun (name, _) => name.lower == Place.environment.nameOf f :=
    funext fun _ => Bool.and_true _
  rw [hcounts]
  rfl

theorem assigned?_sources (f : Field) : (o.sources.assigned? f).map .text = o.given? .file f := by
  rw [Sources.assigned?, assignments_sources, Option.map_bind]
  exact o.find?_assignments _

theorem chosen?_sources (f : Field) : o.sources.chosen? f = o.chosen? f := by
  have hmeaning : o.sources.options.meaning = Value.text :=
    funext fun t => if_neg nofun
  rw [Sources.chosen?, argument?_sources, hmeaning, Option.map_or, supplied?_sources,
    assigned?_sources]
  show (o.given? .arguments f).or (((o.given? .environment f).or (o.given? .file f)).or none) = _
  rw [Option.or_none, chosen?, Place.all]
  simp only [List.findSome?_cons, List.findSome?_nil]
  cases o.given? .arguments f <;> cases o.given? .environment f <;> cases o.given? .file f <;> rfl

/-! ### Names that stand for nothing -/

theorem unknownAssignments_eq :
    o.unknownAssignments = o.assignments.filterMap fun a =>
      if isKnown a.name then none
      else ((a.value.map Value.text).filter Value.isTrue).map (a.name, ·) := by
  rw [assignments, DotEnv.collapse_eq, List.filterMap_filterMap, unknownAssignments]
  have hnames : (o.entries .file).map (·.1.lower) =
      ((DotEnv.collapse o.file).map fun a => { a with name := a.name.lower }).map (·.name) := by
    rw [entries_file, List.map_map, List.map_map]
    rfl
  rw [hnames]
  refine List.filterMap_congr fun name _ => ?_
  rw [← find?_assignments, assignments, DotEnv.find?_collapse]
  cases hfind : List.find? _ _ with
  | none =>
      rw [Option.bind_none, Option.bind_none]
      split <;> rfl
  | some a =>
      have hname : a.name = name := beq_iff_eq.mp (List.find?_some hfind :)
      rw [Option.bind_some, Option.bind_some, hname]

theorem fileExtras_sources : o.sources.fileExtras = o.unknownAssignments := by
  rw [Sources.fileExtras, assignments_sources, unknownAssignments_eq]
  refine List.filterMap_congr fun a _ => ?_
  have hknown : o.sources.isFieldName a.name = isKnown a.name := rfl
  rw [hknown]
  obtain ⟨name, value⟩ := a
  cases isKnown name with
  | true => rcases value with _ | _ | ⟨c, rest⟩ <;> rfl
  | false => rcases value with _ | _ | ⟨c, rest⟩ <;> rfl

theorem argumentExtras_sources : o.sources.argumentExtras = o.unknownArguments :=
  rfl

theorem extras_sources (hapart : o.Apart) :
    o.sources.extras = (o.unknownAssignments ++ o.unknownArguments).map
      fun (name, v) => ⟨name, .extraForbidden, v⟩ := by
  rw [Sources.extras, fileExtras_sources, argumentExtras_sources, List.map_append]
  dsimp only
  congr 1
  · -- No argument has the name, so the value is that of the file.
    refine List.map_congr_left fun b hb => ?_
    have hlookup : o.unknownArguments.lookup b.1 = none :=
      List.lookup_eq_none_iff.mpr fun a ha => bne_iff_ne.mpr (hapart a ha b hb).symm
    rw [hlookup, Option.getD_none]
  · rw [List.filter_eq_self.mpr]
    intro a ha
    rw [Bool.not_eq_true', List.any_eq_false]
    exact fun b hb hname => hapart a ha b hb (beq_iff_eq.mp hname).symm

/-! ### All fields -/

theorem rejection_map {α β : Type} (wrap : α → β) (x : Except Rejection α) :
    Sources.rejection (x.map wrap) = Sources.rejection x := by
  cases x <;> rfl

theorem exists_of_rejection_eq_nil {α : Type} {x : Except Rejection α}
    (h : Sources.rejection x = []) : ∃ a, x = .ok a := by
  cases x with
  | error r => cases h
  | ok a => exact ⟨a, rfl⟩

variable (standard : Settings)

theorem rejection_taken (f : Field) :
    Sources.rejection (o.taken standard f) = (o.fault? f).toList := by
  rw [taken, fault?]
  cases o.chosen? f with
  | none => rfl
  | some v =>
      rw [Option.bind_some]
      dsimp only
      cases f.read v <;> rfl

section
variable {α : Type} (wrap : α → Value) {f : Field} {a : α} {read : Value → Except Fault α}

theorem map_field_sources (hstandard : standard.value f = wrap a)
    (hread : ∀ v, f.read v = (read v).map wrap) :
    (o.sources.field f a read).map wrap = o.taken standard f := by
  rw [Sources.field, chosen?_sources, taken]
  cases o.chosen? f with
  | none => exact congrArg Except.ok hstandard.symm
  | some v =>
      dsimp only
      rw [hread]
      cases read v <;> rfl

theorem rejection_field_sources (hstandard : standard.value f = wrap a)
    (hread : ∀ v, f.read v = (read v).map wrap) :
    Sources.rejection (o.sources.field f a read) = (o.fault? f).toList := by
  rw [← rejection_map wrap, map_field_sources o standard wrap hstandard hread, rejection_taken]

theorem taken_of_field_sources (hstandard : standard.value f = wrap a)
    (hread : ∀ v, f.read v = (read v).map wrap) {b : α} (h : o.sources.field f a read = .ok b) :
    o.taken standard f = .ok (wrap b) := by
  rw [← map_field_sources o standard wrap hstandard hread, h]
  rfl

end

theorem rejections_eq (hapart : o.Apart) :
    o.rejections =
      Sources.rejection (o.sources.field .host standard.host Value.readText) ++
      Sources.rejection (o.sources.field .port standard.port Value.readInt) ++
      Sources.rejection (o.sources.field .rootDir standard.rootDir Value.readPath) ++
      Sources.rejection (o.sources.field .urlPrefix standard.urlPrefix Value.readText) ++
      Sources.rejection (o.sources.field .htmlIndex standard.htmlIndex Value.readBool) ++
      Sources.rejection (o.sources.field .logLevel standard.logLevel Value.readText) ++
      o.sources.extras := by
  have hfaults : Field.all.filterMap o.fault? = (o.fault? .host).toList ++ (o.fault? .port).toList ++
      (o.fault? .rootDir).toList ++ (o.fault? .urlPrefix).toList ++ (o.fault? .htmlIndex).toList ++
      (o.fault? .logLevel).toList := by
    simp only [Field.all, List.filterMap_eq_flatMap_toList, List.flatMap_cons, List.flatMap_nil,
      List.append_nil, List.append_assoc]
  rw [rejections, extras_sources o hapart, hfaults,
    rejection_field_sources o standard .text rfl fun _ => rfl,
    rejection_field_sources o standard .int rfl fun _ => rfl,
    rejection_field_sources o standard .text rfl fun _ => rfl,
    rejection_field_sources o standard .text rfl fun _ => rfl,
    rejection_field_sources o standard .bool rfl fun _ => rfl,
    rejection_field_sources o standard .text rfl fun _ => rfl]

/-- Either nothing is wrong and there are settings with what each field takes, or all is told that is
wrong. -/
theorem settings_sources_cases (hapart : o.Apart) :
    (∃ s, o.sources.settings standard = .ok s ∧ o.rejections = [] ∧
      ∀ f, o.taken standard f = .ok (s.value f)) ∨
    (o.sources.settings standard = .error o.rejections ∧ o.rejections ≠ []) := by
  rw [Sources.settings, rejections_eq o standard hapart]
  split
  next host port rootDir urlPrefix htmlIndex logLevel hhost hport hroot hprefix hindex hlevel hextras =>
    refine Or.inl ⟨_, rfl, ?_, fun f => ?_⟩
    · rw [hhost, hport, hroot, hprefix, hindex, hlevel, hextras]
      rfl
    · cases f with
      | host => exact taken_of_field_sources o standard .text rfl (fun _ => rfl) hhost
      | port => exact taken_of_field_sources o standard .int rfl (fun _ => rfl) hport
      | rootDir => exact taken_of_field_sources o standard .text rfl (fun _ => rfl) hroot
      | urlPrefix => exact taken_of_field_sources o standard .text rfl (fun _ => rfl) hprefix
      | htmlIndex => exact taken_of_field_sources o standard .bool rfl (fun _ => rfl) hindex
      | logLevel => exact taken_of_field_sources o standard .text rfl (fun _ => rfl) hlevel
  next hrefused =>
    refine Or.inr ⟨rfl, fun hnil => ?_⟩
    simp only [List.append_eq_nil_iff] at hnil
    obtain ⟨⟨⟨⟨⟨⟨hhost, hport⟩, hroot⟩, hprefix⟩, hindex⟩, hlevel⟩, hextras⟩ := hnil
    obtain ⟨host, hhost⟩ := exists_of_rejection_eq_nil hhost
    obtain ⟨port, hport⟩ := exists_of_rejection_eq_nil hport
    obtain ⟨rootDir, hroot⟩ := exists_of_rejection_eq_nil hroot
    obtain ⟨urlPrefix, hprefix⟩ := exists_of_rejection_eq_nil hprefix
    obtain ⟨htmlIndex, hindex⟩ := exists_of_rejection_eq_nil hindex
    obtain ⟨logLevel, hlevel⟩ := exists_of_rejection_eq_nil hlevel
    exact hrefused _ _ _ _ _ _ hhost hport hroot hprefix hindex hlevel hextras

/-! ### What is said of a field below the place that counts -/

variable {o} {f g : Field} {p : Place}

theorem nodup_nameOf (p : Place) : (Field.all.map p.nameOf).Nodup := by
  have hvariables : (Field.all.map Place.file.nameOf).Nodup := by decide +kernel
  cases p with
  | arguments => decide +kernel
  | environment => exact hvariables
  | file => exact hvariables

theorem nameOf_ne (h : g ≠ f) (p : Place) : p.nameOf g ≠ p.nameOf f :=
  fun hname => h (List.inj_on_of_nodup_map (nodup_nameOf p) (Field.mem_all g) (Field.mem_all f) hname)

theorem isKnown_nameOf (f : Field) : isKnown (Place.file.nameOf f) = true :=
  List.any_eq_true.mpr ⟨f, Field.mem_all f, by rw [beq_self_eq_true, Bool.or_true]⟩

/-- Entries for another name have no part in the value of a name. -/
theorem find?_reverse_filter (entries : List (Text × Option Value)) {name other : Text}
    (h : name ≠ other) :
    (entries.filter (·.1.lower != other)).reverse.find? (·.1.lower == name) =
      entries.reverse.find? (·.1.lower == name) := by
  rw [← List.filter_reverse, List.find?_filter]
  refine congrArg (entries.reverse.find? ·) (funext fun entry => ?_)
  by_cases hname : entry.1.lower = name
  · simp [hname, h]
  · simp [hname]

theorem collapse_filter_entries (file : List DotEnv.Assignment) (name : Text) :
    DotEnv.collapse (file.filter fun a => a.name.lower != name) =
      (DotEnv.collapse file).filter fun a => a.name.lower != name :=
  (DotEnv.filter_collapse (·.lower != name) file).symm

/-- What is left out are entries for the field and no others. -/
theorem filter_entries_exceptBelow (o : Offers) (f : Field) (p q : Place) :
    ((o.exceptBelow f p).entries q).filter (·.1.lower != q.nameOf f) =
      (o.entries q).filter (·.1.lower != q.nameOf f) := by
  -- Where the place is not below, it is as it was.
  cases p <;> cases q <;> try rfl
  case arguments.environment =>
    simp [entries, exceptBelow, List.filter_map, Function.comp_def]
  all_goals
    rw [entries_file, entries_file, List.filter_map, List.filter_map]
    simp [exceptBelow, collapse_filter_entries, Function.comp_def]

theorem given?_exceptBelow (h : g ≠ f) (p q : Place) :
    (o.exceptBelow f p).given? q g = o.given? q g := by
  rw [given?, given?, value?, value?, ← find?_reverse_filter _ (nameOf_ne h q),
    filter_entries_exceptBelow, find?_reverse_filter _ (nameOf_ne h q)]

theorem chosen?_exceptBelow (hgiven : (o.given? p f).isSome) (g : Field) :
    (o.exceptBelow f p).chosen? g = o.chosen? g := by
  by_cases h : g = f
  · -- The search has ended before it comes to what is left out.
    subst h
    obtain ⟨v, hv⟩ := Option.isSome_iff_exists.mp hgiven
    cases p with
    | arguments =>
        have hv' : (o.exceptBelow g .arguments).given? .arguments g = some v := hv
        simp only [chosen?, Place.all, List.findSome?_cons, hv, hv']
    | environment =>
        have hv' : (o.exceptBelow g .environment).given? .environment g = some v := hv
        have hfirst : (o.exceptBelow g .environment).given? .arguments g = o.given? .arguments g := rfl
        simp only [chosen?, Place.all, List.findSome?_cons, hfirst, hv, hv']
    | file => rfl
  · exact congrArg (Place.all.findSome? ·) (funext fun q => given?_exceptBelow h p q)

theorem filter_assignments (o : Offers) (name : Text) :
    o.assignments.filter (·.name != name) =
      DotEnv.collapse ((DotEnv.collapse (o.file.filter fun a => a.name.lower != name)).map
        fun a => { a with name := a.name.lower }) := by
  rw [assignments, DotEnv.filter_collapse (· != name), List.filter_map, collapse_filter_entries]
  rfl

theorem unknownAssignments_eq_filter (o : Offers) (f : Field) :
    o.unknownAssignments =
      (o.assignments.filter (·.name != Place.file.nameOf f)).filterMap fun a =>
        if isKnown a.name then none
        else ((a.value.map Value.text).filter Value.isTrue).map (a.name, ·) := by
  rw [unknownAssignments_eq, List.filterMap_filter]
  refine List.filterMap_congr fun a _ => ?_
  by_cases h : a.name = Place.file.nameOf f
  · rw [h, isKnown_nameOf]
    simp
  · simp [h]

theorem unknownAssignments_exceptBelow (o : Offers) (f : Field) (p : Place) :
    (o.exceptBelow f p).unknownAssignments = o.unknownAssignments := by
  rw [unknownAssignments_eq_filter _ f, unknownAssignments_eq_filter o f, filter_assignments,
    filter_assignments]
  cases p with
  | file => rfl
  | arguments => simp [exceptBelow]
  | environment => simp [exceptBelow]

theorem unknownArguments_exceptBelow (o : Offers) (f : Field) (p : Place) :
    (o.exceptBelow f p).unknownArguments = o.unknownArguments := by
  cases p <;> rfl

theorem taken_exceptBelow (hgiven : (o.given? p f).isSome) (g : Field) :
    (o.exceptBelow f p).taken standard g = o.taken standard g := by
  rw [taken, taken, chosen?_exceptBelow hgiven]

theorem rejections_exceptBelow (hgiven : (o.given? p f).isSome) :
    (o.exceptBelow f p).rejections = o.rejections := by
  have hfault : (o.exceptBelow f p).fault? = o.fault? :=
    funext fun g => by rw [fault?, fault?, chosen?_exceptBelow hgiven]
  rw [rejections, rejections, hfault, unknownAssignments_exceptBelow, unknownArguments_exceptBelow]

theorem given?_exceptBelow_self (o : Offers) (f : Field) (p : Place) :
    (o.exceptBelow f p).given? p f = o.given? p f := by
  cases p <;> rfl

end Offers

end StaticSite
