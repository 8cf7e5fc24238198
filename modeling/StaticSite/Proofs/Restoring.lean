import Mathlib.Data.List.TakeWhile
import Mathlib.Tactic.IntervalCases
import StaticSite.Proofs.Loading
import StaticSite.Proofs.Numerals
import StaticSite.Proofs.Settled
import StaticSite.Proofs.Variables
import StaticSite.Settings.Attribute

/-! Settings that are given once more. All that a field takes is in a form that it takes again as it
is: a path is in plain form, which is the plain form of itself, and an integer is read from its digits
as it was. So settings that were loaded from whatever there was are loaded again from arguments that
hold them, and from an environment that holds their texts. -/

namespace StaticSite

/-! ### The plain form of a path -/

namespace Path

/-- Parts that all lead somewhere. -/
def Leading (p : Path) : Prop :=
  ∀ part ∈ p, part ≠ [] ∧ part ≠ here ∧ '/' ∉ part

theorem leading_significant (t : Text) : (significant (ofText t)).Leading := by
  intro part hpart
  obtain ⟨hmem, hleads⟩ := List.mem_filter.mp hpart
  rw [Bool.and_eq_true, bne_iff_ne, bne_iff_ne] at hleads
  exact ⟨hleads.1, hleads.2, Text.not_mem_of_mem_splitOn hmem⟩

theorem significant_ofText_slash (t : Text) :
    significant (ofText ('/' :: t)) = significant (ofText t) := by
  rw [ofText, Text.splitOn, if_pos rfl, significant, List.filter_cons]
  rfl

namespace Leading
variable {p : Path}

theorem head?_text (h : p.Leading) : (text p).head? ≠ some '/' := by
  cases p with
  | nil => nofun
  | cons part rest =>
      obtain ⟨hne, -, hslash⟩ := h part List.mem_cons_self
      obtain ⟨c, after, rfl⟩ := List.exists_cons_of_ne_nil hne
      have hc : c ≠ '/' := fun hc => hslash (hc ▸ List.mem_cons_self)
      cases rest with
      | nil => simpa [text, Text.joinWith] using hc
      | cons next rest => simpa [text, Text.joinWith] using hc

theorem significant_ofText_text (h : p.Leading) : significant (ofText (text p)) = p := by
  by_cases hne : p = []
  · rw [hne]
    rfl
  · have hparts : ofText (text p) = p :=
      Text.splitOn_joinWith hne fun part hpart => (h part hpart).2.2
    rw [hparts, significant, List.filter_eq_self]
    intro part hpart
    obtain ⟨hpart, hhere, -⟩ := h part hpart
    simp [hpart, hhere]

/-- Slashes in front of such parts are kept if there are two at most. -/
theorem leadingSlashes_append (h : p.Leading) (t : Text) :
    leadingSlashes (leadingSlashes t ++ text p) = leadingSlashes t ∧
      significant (ofText (leadingSlashes t ++ text p)) = p := by
  have hslashes : leadingSlashes t ∈ [[], ['/'], ['/', '/']] := by
    unfold leadingSlashes
    split <;> simp
  have hfront : ∀ first ∈ [[], ['/'], ['/', '/']],
      leadingSlashes (first ++ text p) = first ∧ significant (ofText (first ++ text p)) = p := by
    have hhead := h.head?_text
    have hsame := h.significant_ofText_text
    generalize text p = u at hhead hsame
    simp only [List.forall_mem_cons, List.cons_append, List.nil_append, significant_ofText_slash, hsame]
    cases u with
    | nil => simp [leadingSlashes]
    | cons c rest =>
        have hc : c ≠ '/' := fun hc => hhead (congrArg some hc)
        simp [leadingSlashes, hc]
  exact hfront _ hslashes

end Leading

/-- A path in plain form is the plain form of itself. -/
theorem plain_plain (t : Text) : plain (plain t) = plain t := by
  obtain ⟨hslashes, hparts⟩ := (leading_significant t).leadingSlashes_append t
  by_cases hwritten : leadingSlashes t ++ text (significant (ofText t)) = []
  · have hplain : plain t = here := by rw [plain, hwritten, if_pos rfl]
    rw [hplain]
    decide
  · have hplain : plain t = leadingSlashes t ++ text (significant (ofText t)) := by
      rw [plain, if_neg hwritten]
    rw [hplain, plain, hslashes, hparts, if_neg hwritten]

end Path

/-! ### Integers in decimal -/

namespace Text

/-- A number other than zero is written without zeros in front. -/
theorem head?_ofNat {n : Nat} (h : 0 < n) : (ofNat n).head? ≠ some '0' := by
  induction n using Nat.strongRecOn with
  | ind n ih =>
      by_cases hsmall : n < 10
      · rw [ofNat, Nat.toDigits_of_lt_base hsmall]
        interval_cases n <;> decide
      · have hdigits : ofNat n = ofNat (n / 10) ++ [(n % 10).digitChar] :=
          Nat.toDigits_of_base_le (by decide) (by omega)
        rw [hdigits, List.head?_append_of_ne_nil _ (ofNat_ne_nil _)]
        exact ih (n / 10) (by omega) (by omega)

end Text

namespace Value

/-- Digits of which the first is no zero are read as the number that they denote, after a minus or
nothing, if there are not too many. -/
theorem readPlainInt_of_isNumeral {digits : Text} (h : digits.IsNumeral)
    (hhead : digits.head? ≠ some '0') (hlength : digits.length ≤ maxPlainDigits) :
    readPlainInt digits = .ok (Text.natOfDigits digits : Int) ∧
      readPlainInt ('-' :: digits) = .ok (-(Text.natOfDigits digits : Int)) := by
  have hrun : digits.takeWhile Text.isDigit = digits := List.takeWhile_eq_self_iff.mpr h.digits
  have hminus : ∀ rest, digits ≠ '-' :: rest := by
    intro rest heq
    exact h.not_mem (c := '-') (by decide) (heq ▸ List.mem_cons_self)
  constructor
  · rw [readPlainInt, hrun, if_neg h.notEmpty, if_neg hhead, if_neg (Nat.not_lt.mpr hlength),
      if_neg (Nat.lt_irrefl _)]
    · rfl
    · exact hminus
  · rw [readPlainInt]
    simp only [hrun]
    rw [if_neg h.notEmpty, if_neg hhead, if_neg (Nat.not_lt.mpr hlength), if_neg (Nat.lt_irrefl _)]
    rfl

/-- An integer is read from its digits as it was, if they are not too many. -/
theorem readIntText_ofInt {n : Int} (h : (Text.ofNat n.natAbs).length ≤ maxPlainDigits) :
    readIntText (Text.ofInt n) = .ok n := by
  have hplain : readPlainInt (Text.ofInt n) = .ok n := by
    by_cases hzero : n = 0
    · rw [hzero]
      decide
    · obtain ⟨hpositive, hnegative⟩ := readPlainInt_of_isNumeral (Text.isNumeral_ofNat n.natAbs)
        (Text.head?_ofNat (Int.natAbs_pos.mpr hzero)) h
      rw [Text.natOfDigits_ofNat] at hpositive hnegative
      cases n with
      | ofNat n => exact hpositive
      | negSucc n => exact hnegative
  rw [readIntText, hplain]

end Value

/-! ### Values that a field takes again -/

namespace Settings

/-- Settings with the path of their directory in plain form. All that are loaded are such. -/
def Normal (s : Settings) : Prop :=
  Path.plain s.rootDir = s.rootDir

instance (s : Settings) : Decidable s.Normal :=
  inferInstanceAs (Decidable (_ = _))

/-- The text of a field. -/
def text (s : Settings) : Field → Text
  | .host => s.host
  | .port => Text.ofInt s.port
  | .rootDir => s.rootDir
  | .urlPrefix => s.urlPrefix
  | .htmlIndex => (if s.htmlIndex then "true" else "false").toList
  | .logLevel => s.logLevel

/-- The environment that holds settings, each under the name of its variable. -/
def environment (s : Settings) : List (Text × Text) :=
  Field.all.map fun f => (f.variableName, s.text f)

variable {s : Settings}

theorem members_eq (s : Settings) :
    Attribute.members s = Field.all.map fun f => (f.name, s.value f) :=
  rfl

theorem read_value (h : s.Normal) (f : Field) : f.read (s.value f) = .ok (s.value f) := by
  cases f with
  | rootDir => exact congrArg (fun root => Except.ok (Value.text root)) h
  | _ => rfl

theorem read_text (h : s.Normal) (hdigits : (Text.ofNat s.port.natAbs).length ≤ Value.maxPlainDigits)
    (f : Field) : f.read (.text (s.text f)) = .ok (s.value f) := by
  cases f with
  | rootDir => exact congrArg (fun root => Except.ok (Value.text root)) h
  | port => exact congrArg (Except.map Value.int) (Value.readIntText_ofInt hdigits)
  | htmlIndex =>
      rw [value, text]
      cases s.htmlIndex <;> rfl
  | _ => rfl

end Settings

/-! ### Offers that hold settings -/

namespace Offers
variable {o : Offers} {s standard : Settings}

/-- Where each field is given what it takes as it is in some settings, and nothing else is given that
would stand for nothing, these settings come of it. -/
theorem settings_of_chosen (hchosen : ∀ f, ∃ v, o.chosen? f = some v ∧ f.read v = .ok (s.value f))
    (harguments : o.unknownArguments = []) (hassignments : o.unknownAssignments = []) :
    (o.sources.settings standard).mapError .invalid = (.ok s : Except SettingsError Settings) := by
  have hapart : o.Apart := by
    rw [Apart, harguments]
    nofun
  have hfault : ∀ f, o.fault? f = none := by
    intro f
    obtain ⟨v, hv, hread⟩ := hchosen f
    rw [fault?, hv, Option.bind_some, hread]
  have hrejections : o.rejections = [] := by
    rw [rejections, harguments, hassignments, List.append_nil, List.map_nil, List.append_nil,
      List.filterMap_eq_nil_iff]
    exact fun f _ => hfault f
  refine ((decides_sources hapart standard).accepts s).mpr ⟨hrejections, fun f => ?_⟩
  obtain ⟨v, hv, hread⟩ := hchosen f
  rw [taken, hv]
  dsimp only
  rw [hread]
  rfl

end Offers

namespace Settings
variable {surroundings : Surroundings} {s standard : Settings} {arguments : List (Text × Value)}

/-- Whatever settings come of sources has its directory from one of them or is as standard. -/
theorem normal_of_settings {sources : Sources} (hstandard : standard.Normal)
    (h : sources.settings standard = .ok s) : s.Normal := by
  rw [Sources.settings] at h
  split at h
  next host port root urlPrefix htmlIndex logLevel _ _ hroot _ _ _ _ =>
    cases h
    rw [Sources.field] at hroot
    split at hroot
    · cases hroot
      exact hstandard
    next v _ =>
      cases v with
      | text t =>
          cases hroot
          exact Path.plain_plain t
      | _ => cases hroot
  · cases h

/-- What is loaded is standard or comes of some sources. -/
theorem settings_of_load (h : load surroundings standard arguments = .ok s) :
    s = standard ∨ ∃ sources : Sources, sources.settings standard = .ok s := by
  obtain ⟨brought, -, h⟩ := exists_of_bind h
  cases brought with
  | true =>
      cases h
      exact Or.inl rfl
  | false =>
      obtain ⟨_, -, h⟩ := exists_of_bind h
      obtain ⟨files, -, h⟩ := exists_of_bind h
      obtain ⟨commandLine, -, h⟩ := exists_of_bind h
      obtain ⟨options, -, h⟩ := exists_of_bind h
      obtain ⟨secrets, -, h⟩ := exists_of_bind h
      exact Or.inr ⟨_, ok_of_mapError h⟩

theorem normal_of_load (hstandard : standard.Normal) (h : load surroundings standard arguments = .ok s) :
    s.Normal := by
  rcases settings_of_load h with rfl | ⟨sources, hsources⟩
  · exact hstandard
  · exact normal_of_settings hstandard hsources

/-! ### Loading again -/

theorem mem_of_perm_members (h : arguments.Perm (Attribute.members s)) {a : Text × Value} :
    a ∈ arguments ↔ ∃ f : Field, (f.name, s.value f) = a := by
  rw [h.mem_iff, members_eq, List.mem_map]
  simp [Field.mem_all]

theorem plain_of_perm_members (h : arguments.Perm (Attribute.members s)) :
    SourceOptions.Plain arguments := by
  -- The names of options begin with an underscore, those of fields with a letter.
  have hoptions : ∀ name ∈ SourceOptions.selfName :: SourceOptions.names, name.head? = some '_' := by
    decide +kernel
  intro a ha
  obtain ⟨f, rfl⟩ := (mem_of_perm_members h).mp ha
  have hfield : f.name.head? ≠ some '_' := by
    cases f <;> decide
  constructor
  · intro hname
    exact hfield (hoptions _ (List.mem_cons_of_mem _ hname))
  · intro hself
    exact hfield (hoptions _ (hself ▸ List.mem_cons_self))

section
variable {o : Offers}

/-- Arguments that hold settings give each field its value. -/
theorem given?_of_arguments (h : o.arguments.Perm (Attribute.members s)) (f : Field) :
    o.given? .arguments f = some (s.value f) := by
  have hentries : ∀ {entry}, entry ∈ o.entries .arguments ↔
      ∃ g : Field, (g.name, some (s.value g)) = entry := by
    intro entry
    simp [Offers.entries, mem_of_perm_members h]
  have hgiven : o.value? .arguments f.name.lower = some (s.value f) := by
    apply Offers.value?_of_mem
    · exact hentries.mpr ⟨f, rfl⟩
    · intro entry hentry hname
      obtain ⟨g, rfl⟩ := hentries.mp hentry
      rw [g.lower_name, f.lower_name] at hname
      rw [Field.eq_of_nameOf (p := .arguments) hname]
  rwa [f.lower_name] at hgiven

/-- So does an environment that holds them, whatever else is in it. -/
theorem given?_of_environment {others : List (Text × Text)}
    (h : o.environment.Perm (s.environment ++ others))
    (hothers : ∀ x ∈ others, ∀ f : Field, x.1.lower ≠ f.variableName.lower) (f : Field) :
    o.given? .environment f = some (.text (s.text f)) := by
  have hentries : ∀ {entry}, entry ∈ o.entries .environment ↔
      (∃ g : Field, (g.variableName, some (.text (s.text g))) = entry) ∨
        ∃ x ∈ others, (x.1, some (.text x.2)) = entry := by
    intro entry
    simp [Offers.entries, h.mem_iff, environment, Field.mem_all, or_and_right, exists_or]
  have hgiven : o.value? .environment f.variableName.lower = some (.text (s.text f)) := by
    apply Offers.value?_of_mem
    · exact hentries.mpr (Or.inl ⟨f, rfl⟩)
    · intro entry hentry hname
      rcases hentries.mp hentry with ⟨g, rfl⟩ | ⟨x, hx, rfl⟩
      · rw [g.lower_variableName, f.lower_variableName] at hname
        rw [Field.eq_of_nameOf (p := .file) hname]
      · exact absurd hname (hothers x hx f)
  rwa [f.lower_variableName] at hgiven

end

/-- Settings that have been loaded are loaded again, in any surroundings without a file of assignments,
from arguments that hold them, and, if the port has no more digits than are read, from an environment in
which their variables have their texts. The path of their directory is in plain form. -/
theorem load_restores {own : Text} (hown : Path.plain own = own)
    (h : load surroundings (.standard own) arguments = .ok s) :
    (∀ again standard' arguments', again.Holds [] → arguments'.Perm (Attribute.members s) →
      load again standard' arguments' = .ok s) ∧
    ((Text.ofNat s.port.natAbs).length ≤ 4300 →
      ∀ again standard' others, again.Holds [] →
        again.environment.Perm (s.environment ++ others) →
        (∀ x ∈ others, ∀ f : Field, x.1.lower ≠ f.variableName.lower) →
        load again standard' [] = .ok s) ∧
    Path.plain s.rootDir = s.rootDir := by
  have hstandard : (Settings.standard own).Normal := hown
  have hnormal : s.Normal := normal_of_load hstandard h
  refine ⟨?_, ?_, hnormal⟩
  · intro again standard' arguments' hholds harguments
    rw [load_of_plain hholds (plain_of_perm_members harguments)]
    apply Offers.settings_of_chosen
    · intro f
      refine ⟨s.value f, ?_, read_value hnormal f⟩
      rw [Offers.chosen?, Place.all, List.findSome?_cons, given?_of_arguments harguments f]
    · rw [Offers.unknownArguments, List.filter_eq_nil_iff]
      intro a ha hunknown
      obtain ⟨f, rfl⟩ := (mem_of_perm_members harguments).mp ha
      have hknown : Field.all.any (·.name == f.name.lower) = true :=
        List.any_eq_true.mpr ⟨f, Field.mem_all f, by rw [f.lower_name, beq_self_eq_true]⟩
      simp [hknown] at hunknown
    · rfl
  · intro hdigits again standard' others hholds henvironment hothers
    rw [load_of_plain hholds (List.forall_mem_nil _)]
    apply Offers.settings_of_chosen
    · intro f
      refine ⟨.text (s.text f), ?_, read_text hnormal hdigits f⟩
      have hnone : (Offers.mk [] again.environment (DotEnv.read again.environment [])).given?
          .arguments f = none := rfl
      rw [Offers.chosen?, Place.all, List.findSome?_cons, hnone, List.findSome?_cons,
        given?_of_environment henvironment hothers f]
    · rfl
    · rfl

end Settings

/-! ### Settings in odd spellings -/

namespace OddSpellings

def surroundings (environment : List (Text × Text)) : Surroundings :=
  { vantage := ⟨⟨[]⟩, .superuser, []⟩
    environment
    homes := ⟨[], []⟩ }

def own : Text :=
  "/srv/site".toList

def environment : List (Text × Text) :=
  [("static_server_port".toList, " -0_4_2.00".toList), ("Static_Server_Html_Index".toList, "OFF".toList)]

def arguments : List (Text × Value) :=
  [("Root_Dir".toList, .text "//a/./b/".toList), ("host".toList, .text "$\x7bHOST\x7d\r'".toList)]

def settings : Settings :=
  { Settings.standard "//a/b".toList with
    host := "$\x7bHOST\x7d\r'".toList
    port := -42
    htmlIndex := false }

/-- Variables that name no field as variables do. -/
def others : List (Text × Text) :=
  [("PORT".toList, "none".toList)]

/-- What is loaded is the same again, though the environment of the arguments says otherwise. -/
theorem load_restores_odd :
    Settings.load (surroundings environment) (.standard own) arguments = .ok settings ∧
    Settings.load (surroundings [("STATIC_SERVER_PORT".toList, "none".toList)]) (.standard [])
      (Attribute.members settings).reverse = .ok settings ∧
    Settings.load (surroundings (others ++ settings.environment)) (.standard []) [] = .ok settings ∧
    Path.plain settings.rootDir = settings.rootDir := by
  have hload : Settings.load (surroundings environment) (.standard own) arguments = .ok settings :=
    ok_of_toOption (by decide +kernel)
  have hown : Path.plain own = own := by decide
  have hdigits : (Text.ofNat settings.port.natAbs).length ≤ 4300 := by decide
  have hothers : ∀ x ∈ others, ∀ f : Field, x.1.lower ≠ f.variableName.lower := by
    intro x hx f
    rw [List.mem_singleton.mp hx]
    cases f <;> decide +kernel
  have hholds (environment : List (Text × Text)) : (surroundings environment).Holds [] :=
    .nothing rfl rfl
  obtain ⟨hgiven, hvariables, hroot⟩ := Settings.load_restores hown hload
  exact ⟨hload, hgiven _ _ _ (hholds _) (List.reverse_perm _),
    hvariables hdigits _ _ others (hholds _) List.perm_append_comm hothers, hroot⟩

end OddSpellings

end StaticSite
