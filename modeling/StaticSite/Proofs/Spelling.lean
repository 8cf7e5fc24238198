import StaticSite.Proofs.LetterCase
import StaticSite.Proofs.PlainLines
import StaticSite.Proofs.Variables
import StaticSite.Settings.Load

/-! How names are spelled, and in what order they stand. Where letter case does not matter and no two
names of a place are the same without it, capital letters of ASCII in the names of variables and lines
make no difference, nor does the order of the variables. The order of the lines decides only in which
order the names that stand for nothing are told. -/

namespace StaticSite

/-! ### Results of two runs -/

/-- Results that fail alike or are related. -/
inductive Alike {ε α : Type} (R : α → α → Prop) : Except ε α → Except ε α → Prop
  | error (e : ε) : Alike R (.error e) (.error e)
  | ok {a' a : α} (h : R a' a) : Alike R (.ok a') (.ok a)

namespace Alike
variable {ε α β : Type} {R : α → α → Prop}

theorem refl (x : Except ε α) : Alike (fun a' a => a' = a ∧ x = .ok a) x x := by
  cases x with
  | error e => exact .error e
  | ok a => exact .ok ⟨rfl, rfl⟩

/-- What goes on with related results is related if failures are. -/
theorem bind {x' x : Except ε α} {f' f : α → Except ε β} {S : Except ε β → Except ε β → Prop}
    (h : Alike R x' x) (herror : ∀ e, S (.error e) (.error e))
    (hf : ∀ a' a, R a' a → S (f' a') (f a)) : S (x' >>= f') (x >>= f) := by
  cases h with
  | error e => exact herror e
  | ok h => exact hf _ _ h

theorem mapM {γ : Type} {f' f : γ → Except ε α} {items : List γ}
    (h : ∀ c ∈ items, Alike R (f' c) (f c)) :
    Alike (List.Forall₂ R) (items.mapM f') (items.mapM f) := by
  induction items with
  | nil => exact .ok .nil
  | cons c items ih =>
      rw [List.mapM_cons, List.mapM_cons]
      refine (h c List.mem_cons_self).bind .error fun a' a ha => ?_
      refine (ih fun d hd => h d (List.mem_cons_of_mem c hd)).bind .error fun as' as has => ?_
      exact .ok (.cons ha has)

end Alike

/-! ### Assignments of which the same count -/

namespace DotEnv

/-- Assignments of which the same one counts for each name. -/
def Agree (as' as : List Assignment) : Prop :=
  ∀ name, as'.reverse.find? (·.name == name) = as.reverse.find? (·.name == name)

namespace Agree
variable {as' as bs' bs : List Assignment}

theorem of_perm (h : as'.Perm as) (hdistinct : (as.map (·.name)).Nodup) : Agree as' as :=
  fun _ => (find?_reverse_of_perm h.symm hdistinct fun _ ha => beq_iff_eq.mp ha).symm

theorem append (h : Agree as' as) (h' : Agree bs' bs) : Agree (as' ++ bs') (as ++ bs) := by
  intro name
  rw [List.reverse_append, List.reverse_append, List.find?_append, List.find?_append, h name, h' name]

theorem flatMap {α : Type} {f : α → List Assignment} {items' items : List α}
    (h : List.Forall₂ (fun a' a => Agree (f a') (f a)) items' items) :
    Agree (items'.flatMap f) (items.flatMap f) := by
  induction h with
  | nil => exact fun _ => rfl
  | cons h _ ih => exact h.append ih

theorem find?_collapse (h : Agree as' as) (name : Text) :
    (collapse as').find? (·.name == name) = (collapse as).find? (·.name == name) := by
  rw [DotEnv.find?_collapse, DotEnv.find?_collapse, h name]

/-- The same assignments are left of them, in another order. -/
theorem perm_collapse (h : Agree as' as) : (collapse as').Perm (collapse as) := by
  have hmem : ∀ (bs : List Assignment) (a : Assignment),
      a ∈ collapse bs ↔ (collapse bs).find? (·.name == a.name) = some a := fun bs a =>
    ⟨find?_name_of_mem (nodup_names_collapse bs), List.mem_of_find?_eq_some⟩
  apply (List.perm_ext_iff_of_nodup (.of_map _ (nodup_names_collapse as'))
    (.of_map _ (nodup_names_collapse as))).mpr
  intro a
  rw [hmem, hmem, h.find?_collapse]

end Agree

namespace Line

/-- The name of a line without the case of its letters in ASCII, and its value. -/
def folded (l : Line) : Text × Text :=
  (l.name.asciiLower, l.value)

end Line

/-- What a file is in two runs: the same, or lines that are spelled anew. -/
inductive Respelled (lines' lines : List Line) : List Assignment → List Assignment → Prop
  | same (file : List Assignment) : Respelled lines' lines file file
  | lines : Respelled lines' lines (lines'.map Line.assignment) (lines.map Line.assignment)

end DotEnv

/-! ### Sources in two runs -/

namespace Sources
open DotEnv
variable {s s' : Sources} {lines lines' : List Line}

/-- Variables with their names without the case of letters in ASCII. -/
def folded (environment : List (Text × Text)) : List (Text × Text) :=
  environment.map fun (name, t) => (name.asciiLower, t)

/-- Sources that are the same but for the names in the environment and in one file. -/
structure Respells (lines' lines : List Line) (s' s : Sources) : Prop where
  options : s'.options = s.options
  anyCase : s.options.exactCase = false
  commandLine : s'.commandLine = s.commandLine
  arguments : s'.arguments = s.arguments
  environment : (folded s'.environment).Perm (folded s.environment)
  distinct : (s.environment.map (·.1.lower)).Nodup
  files : List.Forall₂ (Respelled lines' lines) s'.files s.files
  secrets : s'.secrets = s.secrets

theorem supplied?_eq_folded (hcase : s.options.exactCase = false) (f : Field) :
    s.supplied? f = ((folded s.environment).reverse.find? fun entry =>
      entry.1.lower == s.options.variableName f && s.options.counts entry.2).map (·.2) := by
  rw [folded, ← List.map_reverse, List.find?_map, Option.map_map]
  have hsame : (fun entry : Text × Text => s.options.fold entry.1 == s.options.variableName f &&
      s.options.counts entry.2) = fun entry =>
        entry.1.asciiLower.lower == s.options.variableName f && s.options.counts entry.2 := by
    funext entry
    simp [SourceOptions.fold, hcase, Text.lower_asciiLower]
  exact congrArg (fun p => (s.environment.reverse.find? p).map (·.2)) hsame

/-- Lines as they are compared: with their names in lower case and without values that do not count. -/
def compared (o : SourceOptions) (lines : List Line) : List Assignment :=
  ((lines.map Line.folded).map fun (name, value) => ⟨name.lower, some (plainValue value)⟩).filter
    (·.value.all o.counts)

theorem map_lower_folded (lines : List Line) :
    (lines.map Line.folded).map (·.1.lower) = lines.map (·.name.lower) := by
  rw [List.map_map]
  exact List.map_congr_left fun l _ => Text.lower_asciiLower l.name

theorem nodup_compared (o : SourceOptions) (h : (lines.map (·.name.lower)).Nodup) :
    ((compared o lines).map (·.name)).Nodup := by
  rw [← map_lower_folded] at h
  refine List.Nodup.sublist (List.filter_sublist.map _) ?_
  rw [List.map_map]
  exact h

theorem nodup_lower (hlines : (lines.map (·.name.lower)).Nodup)
    (hperm : (lines'.map Line.folded).Perm (lines.map Line.folded)) :
    (lines'.map (·.name.lower)).Nodup := by
  rw [← map_lower_folded] at hlines ⊢
  exact (hperm.map (·.1.lower)).nodup_iff.mpr hlines

theorem ofFile_lines (hcase : s.options.exactCase = false)
    (hdistinct : (lines.map (·.name.lower)).Nodup) :
    s.ofFile (lines.map Line.assignment) = compared s.options lines := by
  have hnames : ((lines.map Line.assignment).map (·.name)).Nodup := by
    rw [List.map_map]
    exact List.Nodup.of_map Text.lower (by rwa [List.map_map])
  have hfold : (fun a : Assignment => { a with name := s.options.fold a.name }) ∘ Line.assignment =
      (fun (name, value) => ⟨name.lower, some (plainValue value)⟩) ∘ Line.folded := by
    funext l
    simp [SourceOptions.fold, hcase, Line.assignment, Line.folded, Text.lower_asciiLower]
  have hlines : ((lines.map Line.assignment).filter fun a => a.value.all s.options.counts).map
      (fun a => { a with name := s.options.fold a.name }) = compared s.options lines := by
    rw [compared, List.map_map, ← hfold, ← List.map_map]
    exact (List.filter_map (p := fun a : Assignment => a.value.all s.options.counts)
      (f := fun a : Assignment => { a with name := s.options.fold a.name })).symm
  rw [ofFile, collapse_of_nodup hnames, hlines, collapse_of_nodup (nodup_compared s.options hdistinct)]

namespace Respells
variable (h : Respells lines' lines s' s)
include h

theorem supplied? (f : Field) : s'.supplied? f = s.supplied? f := by
  have hcase' : s'.options.exactCase = false := by rw [h.options, h.anyCase]
  have hnames : (folded s.environment).map (·.1.lower) = s.environment.map (·.1.lower) := by
    rw [folded, List.map_map]
    exact List.map_congr_left fun a _ => Text.lower_asciiLower a.1
  have hdistinct : ((folded s.environment).map (·.1.lower)).Nodup := by
    rw [hnames]
    exact h.distinct
  have hkey : ∀ a : Text × Text, (a.1.lower == s.options.variableName f && s.options.counts a.2) = true →
      a.1.lower = s.options.variableName f := fun a ha =>
    beq_iff_eq.mp (Bool.and_eq_true_iff.mp ha).1
  rw [supplied?_eq_folded hcase', supplied?_eq_folded h.anyCase, h.options]
  exact congrArg (Option.map (·.2)) (find?_reverse_of_perm h.environment.symm hdistinct hkey).symm

theorem ofFile_eq : s'.ofFile = s.ofFile := by
  funext file
  rw [ofFile, ofFile, h.options]

section
variable (hlines : (lines.map (·.name.lower)).Nodup)
include hlines

/-- In another order the same of the lines count. -/
theorem agree (hperm : (lines'.map Line.folded).Perm (lines.map Line.folded)) :
    Agree (s'.files.flatMap s'.ofFile) (s.files.flatMap s.ofFile) := by
  rw [h.ofFile_eq]
  refine Agree.flatMap (h.files.imp fun file' file hfile => ?_)
  cases hfile with
  | same file => exact fun _ => rfl
  | lines =>
      have hlines' := nodup_lower hlines hperm
      rw [ofFile_lines h.anyCase hlines', ofFile_lines h.anyCase hlines]
      exact .of_perm ((hperm.map _).filter _) (nodup_compared s.options hlines)

/-- Lines that are the same but for letter case are the same assignments. -/
theorem assignments_eq (hsame : lines'.map Line.folded = lines.map Line.folded) :
    s'.assignments = s.assignments := by
  have hlines' := nodup_lower hlines (.of_eq hsame)
  have hfiles : s'.files.flatMap s'.ofFile = s.files.flatMap s.ofFile := by
    rw [h.ofFile_eq, List.flatMap_def, List.flatMap_def]
    refine congrArg List.flatten (List.forall₂_eq_eq_eq ▸ ?_)
    rw [List.forall₂_map_left_iff, List.forall₂_map_right_iff]
    refine h.files.imp fun file' file hfile => ?_
    cases hfile with
    | same file => rfl
    | lines =>
        rw [ofFile_lines h.anyCase hlines', ofFile_lines h.anyCase hlines, compared, compared, hsame]
  rw [Sources.assignments, Sources.assignments, hfiles]

theorem assignments_perm (hperm : (lines'.map Line.folded).Perm (lines.map Line.folded)) :
    s'.assignments.Perm s.assignments :=
  (h.agree hlines hperm).perm_collapse

theorem chosen?_eq (hperm : (lines'.map Line.folded).Perm (lines.map Line.folded)) (f : Field) :
    s'.chosen? f = s.chosen? f := by
  have hassigned : s'.assigned? f = s.assigned? f := by
    rw [assigned?, assigned?, Sources.assignments, Sources.assignments, h.options,
      (h.agree hlines hperm).find?_collapse]
  have hargument : s'.argument? f = s.argument? f := by rw [argument?, argument?, h.arguments]
  rw [Sources.chosen?, Sources.chosen?, h.commandLine, hargument, h.supplied? f, hassigned, h.options,
    h.secrets]

end

theorem argumentExtras_eq : s'.argumentExtras = s.argumentExtras := by
  rw [argumentExtras, argumentExtras, h.arguments]

theorem isFieldName_eq : s'.isFieldName = s.isFieldName := by
  funext name
  rw [isFieldName, isFieldName, h.options]

theorem extras_eq (hassignments : s'.assignments = s.assignments) : s'.extras = s.extras := by
  have hfile : s'.fileExtras = s.fileExtras := by
    rw [fileExtras, fileExtras, h.isFieldName_eq, hassignments]
  rw [extras, extras, h.argumentExtras_eq, hfile]

/-- From assignments in another order the same names are left over, in another order. -/
theorem extras_perm (hassignments : s'.assignments.Perm s.assignments) : s'.extras.Perm s.extras := by
  have hfile : s'.fileExtras.Perm s.fileExtras := by
    rw [fileExtras, fileExtras, h.isFieldName_eq]
    exact hassignments.filterMap _
  have hany : ∀ name, s'.fileExtras.any (·.1 == name) = s.fileExtras.any (·.1 == name) := fun name =>
    hfile.any_eq
  rw [extras, extras, h.argumentExtras_eq]
  simp only [hany]
  exact (hfile.map _).append_right _

end Respells

/-! ### What comes of them -/

/-- All that is wrong with the values that count, in the order of fields. -/
def faults (s : Sources) (standard : Settings) : List Rejection :=
  rejection (s.field .host standard.host Value.readText) ++
    rejection (s.field .port standard.port Value.readInt) ++
    rejection (s.field .rootDir standard.rootDir Value.readPath) ++
    rejection (s.field .urlPrefix standard.urlPrefix Value.readText) ++
    rejection (s.field .htmlIndex standard.htmlIndex Value.readBool) ++
    rejection (s.field .logLevel standard.logLevel Value.readText)

theorem faults_congr (h : ∀ f, s'.chosen? f = s.chosen? f) (standard : Settings) :
    s'.faults standard = s.faults standard := by
  simp only [faults, field, h]

/-- Names that stand for nothing are told behind all that is wrong with the values. -/
theorem settings_of_extras (h : s.extras ≠ []) (standard : Settings) :
    s.settings standard = .error (s.faults standard ++ s.extras) := by
  rw [settings]
  split
  next hnone => exact absurd hnone h
  · rfl

theorem fault_of_mem_extras {r : Rejection} (h : r ∈ s.extras) : r.fault = .extraForbidden := by
  rw [extras] at h
  rcases List.mem_append.mp h with h | h
  · obtain ⟨a, -, rfl⟩ := List.mem_map.mp h
    rfl
  · obtain ⟨a, -, rfl⟩ := List.mem_map.mp h
    rfl

end Sources

/-- Outcomes of loading settings that are the same but for the order in which names that stand for
nothing are told. -/
inductive AlikeInOrder : Except SettingsError Settings → Except SettingsError Settings → Prop
  | same (outcome : Except SettingsError Settings) : AlikeInOrder outcome outcome
  | reordered {faults extras' extras : List Rejection} (hperm : extras'.Perm extras)
      (hextras : ∀ r ∈ extras, r.fault = .extraForbidden) :
      AlikeInOrder (.error (.invalid (faults ++ extras'))) (.error (.invalid (faults ++ extras)))

theorem Sources.alikeInOrder {s s' : Sources} (hchosen : ∀ f, s'.chosen? f = s.chosen? f)
    (hextras : s'.extras.Perm s.extras) (standard : Settings) :
    AlikeInOrder ((s'.settings standard).mapError .invalid) ((s.settings standard).mapError .invalid) := by
  by_cases hnone : s.extras = []
  · have hnone' : s'.extras = [] := by
      rw [hnone] at hextras
      exact hextras.eq_nil
    rw [settings_congr hchosen (hnone'.trans hnone.symm)]
    exact .same _
  · have hsome : s'.extras ≠ [] := fun hnone' => hnone (hnone' ▸ hextras).symm.eq_nil
    rw [settings_of_extras hnone, settings_of_extras hsome, faults_congr hchosen]
    exact .reordered hextras fun r hr => fault_of_mem_extras hr

end StaticSite
