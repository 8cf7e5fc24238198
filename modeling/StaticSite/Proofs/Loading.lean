import StaticSite.Proofs.Precedence
import StaticSite.Proofs.References
import StaticSite.Settings.Load

/-! What loading settings comes to where no argument asks for other sources than the usual ones: the
outcome is that of what is offered in the arguments, the environment and the file of assignments. -/

namespace StaticSite

/-! ### Arguments for settings alone -/

namespace SourceOptions

/-- Arguments that ask for no other sources or options, and of which none has the name that no
argument can have. -/
def Plain (arguments : List (Text × Value)) : Prop :=
  ∀ a ∈ arguments, a.1 ∉ names ∧ a.1 ≠ selfName

variable {arguments : List (Text × Value)}

theorem argumentOr_of_plain (hplain : Plain arguments) (fallback : Value) (name : String)
    (hname : name.toList ∈ names) : argumentOr fallback arguments name = fallback := by
  have hlookup : arguments.lookup name.toList = none :=
    List.lookup_eq_none_iff.mpr fun a ha => bne_iff_ne.mpr fun h => (hplain a ha).1 (h ▸ hname)
  rw [argumentOr, hlookup, Option.getD_none]

theorem check_of_plain (hplain : Plain arguments) : check arguments = .ok false := by
  have hself : arguments.lookup selfName = none :=
    List.lookup_eq_none_iff.mpr fun a ha => bne_iff_ne.mpr (hplain a ha).2.symm
  rw [check, hself, argumentOr_of_plain hplain _ "_build_sources" (List.mem_map_of_mem (by simp)),
    argumentOr_of_plain hplain _ "_env_nested_max_split" (List.mem_map_of_mem (by simp)),
    argumentOr_of_plain hplain _ "_env_prefix" (List.mem_map_of_mem (by simp))]
  rfl

theorem readPlaces_of_plain (hplain : Plain arguments) :
    SourcePlaces.read arguments = ⟨.text ".env".toList, .null, .null, .null⟩ := by
  rw [SourcePlaces.read, argumentOr_of_plain hplain _ "_env_file" (List.mem_map_of_mem (by simp)),
    argumentOr_of_plain hplain _ "_env_file_encoding" (List.mem_map_of_mem (by simp)),
    argumentOr_of_plain hplain _ "_secrets_dir" (List.mem_map_of_mem (by simp)),
    argumentOr_of_plain hplain _ "_cli_parse_args" (List.mem_map_of_mem (by simp))]

theorem read?_of_plain (hplain : Plain arguments) : read? arguments = some .standard := by
  rw [read?, readExactCase, argumentOr_of_plain hplain _ "_env_prefix" (List.mem_map_of_mem (by simp)),
    argumentOr_of_plain hplain _ "_env_prefix_target" (List.mem_map_of_mem (by simp)),
    argumentOr_of_plain hplain _ "_case_sensitive" (List.mem_map_of_mem (by simp)),
    argumentOr_of_plain hplain _ "_env_ignore_empty" (List.mem_map_of_mem (by simp)),
    argumentOr_of_plain hplain _ "_env_parse_none_str" (List.mem_map_of_mem (by simp))]
  rfl

theorem filter_of_plain (hplain : Plain arguments) :
    (arguments.filter fun (name, _) => !isOption name) = arguments :=
  List.filter_eq_self.mpr fun a ha =>
    (Bool.not_eq_true' _).mpr (Bool.eq_false_iff.mpr fun h =>
      (hplain a ha).1 (List.contains_iff_mem.mp h))

end SourceOptions

/-! ### The file of assignments -/

namespace Surroundings

/-- The path of the file of assignments. -/
def filePath : Path :=
  Path.ofText ".env".toList

/-- The text that the file of assignments holds; none if there is no regular file. -/
inductive Holds (s : Surroundings) : Text → Prop where
  | nothing {found : Option Entry} (hentry : s.entry? ".env".toList = .ok found)
      (hfile : found.filter Entry.isFile = none) : Holds s []
  | text {found : Option Entry} {e : Entry} {bytes : List UInt8} {t : Text}
      (hentry : s.entry? ".env".toList = .ok found) (hfile : found.filter Entry.isFile = some e)
      (hread : s.vantage.read filePath = .ok bytes)
      (hdecode : Charset.utf8.decode bytes = .ok t) : Holds s t

variable {s : Surroundings} {t : Text}

theorem assignments_of_holds (h : s.Holds t) :
    s.assignments .null (.text ".env".toList) = .ok (DotEnv.read s.environment t) := by
  have hpath : s.path (.text ".env".toList) = .ok ".env".toList := rfl
  cases h with
  | nothing hentry hfile =>
      rw [assignments, hpath]
      simp only [bind, Except.bind, hentry, hfile]
      rfl
  | text hentry hfile hread hdecode =>
      have hcharset : charset .null = .ok .utf8 := rfl
      rw [filePath] at hread
      rw [assignments, hpath]
      simp only [bind, Except.bind, hentry, hfile, hcharset, hread, hdecode]
      rfl

/-- What is offered to a process where the file of assignments holds a text. -/
def offers (s : Surroundings) (t : Text) (arguments : List (Text × Value)) : Offers :=
  ⟨arguments, s.environment, DotEnv.written t⟩

end Surroundings

/-! ### Loading -/

/-- Offers decide an outcome field by field: if nothing is wrong with them, it is the settings that
all fields take, and else all that is wrong. -/
structure Offers.Decides (o : Offers) (standard : Settings)
    (outcome : Except SettingsError Settings) : Prop where
  accepts : ∀ s, outcome = .ok s ↔ o.rejections = [] ∧ ∀ f, o.taken standard f = .ok (s.value f)
  refuses : ∀ e, outcome = .error e ↔ o.rejections ≠ [] ∧ e = .invalid o.rejections

theorem Settings.eq_of_value {s s' : Settings} (h : ∀ f, s.value f = s'.value f) : s = s' := by
  have hhost := Value.text.inj (h .host)
  have hport := Value.int.inj (h .port)
  have hroot := Value.text.inj (h .rootDir)
  have hprefix := Value.text.inj (h .urlPrefix)
  have hindex := Value.bool.inj (h .htmlIndex)
  have hlevel := Value.text.inj (h .logLevel)
  cases s
  cases s'
  cases hhost; cases hport; cases hroot; cases hprefix; cases hindex; cases hlevel
  rfl

namespace Offers
variable {o o' : Offers} {standard : Settings} {outcome outcome' : Except SettingsError Settings}

theorem decides_sources (hapart : o.Apart) (standard : Settings) :
    o.Decides standard ((o.sources.settings standard).mapError .invalid) := by
  rcases o.settings_sources_cases standard hapart with ⟨s, hs, hnone, htaken⟩ | ⟨hs, hsome⟩
  · rw [hs]
    refine ⟨fun s' => ⟨?_, fun ⟨_, htaken'⟩ => ?_⟩, fun e => iff_of_false nofun (·.1 hnone)⟩
    · rintro ⟨⟩
      exact ⟨hnone, htaken⟩
    · have hsame : s = s' :=
        Settings.eq_of_value fun f => Except.ok.inj ((htaken f).symm.trans (htaken' f))
      rw [hsame]
      rfl
  · rw [hs]
    refine ⟨fun s' => iff_of_false nofun (hsome ·.1), fun e => ⟨?_, fun ⟨_, he⟩ => ?_⟩⟩
    · rintro ⟨⟩
      exact ⟨hsome, rfl⟩
    · rw [he]
      rfl

/-- Offers in which the same counts decide the same outcome. -/
theorem Decides.eq (h : o.Decides standard outcome) (h' : o'.Decides standard outcome')
    (hrejections : o'.rejections = o.rejections)
    (htaken : ∀ f, o'.taken standard f = o.taken standard f) : outcome' = outcome := by
  cases outcome with
  | ok s =>
      obtain ⟨hnone, hs⟩ := (h.accepts s).mp rfl
      exact (h'.accepts s).mpr ⟨hrejections.trans hnone, fun f => (htaken f).trans (hs f)⟩
  | error e =>
      obtain ⟨hsome, he⟩ := (h.refuses e).mp rfl
      exact (h'.refuses e).mpr ⟨hrejections ▸ hsome, hrejections ▸ he⟩

theorem Apart.of_exceptBelow {f : Field} {p : Place} (h : o.Apart)
    (hsame : o'.exceptBelow f p = o.exceptBelow f p) : o'.Apart := by
  unfold Apart
  rw [← unknownArguments_exceptBelow o' f p, ← unknownAssignments_exceptBelow o' f p, hsame,
    unknownArguments_exceptBelow, unknownAssignments_exceptBelow]
  exact h

end Offers

namespace Settings
variable {s : Surroundings} {t : Text} {arguments : List (Text × Value)}

theorem load_of_plain (hholds : s.Holds t) (hplain : SourceOptions.Plain arguments)
    (standard : Settings) :
    load s standard arguments =
      ((Offers.mk arguments s.environment (DotEnv.read s.environment t)).sources.settings
        standard).mapError .invalid := by
  unfold load
  rw [SourceOptions.check_of_plain hplain, SourceOptions.readPlaces_of_plain hplain,
    SourceOptions.filter_of_plain hplain, Surroundings.options, SourceOptions.read?_of_plain hplain]
  show (do
    let files ← [Value.text ".env".toList].mapM (s.assignments .null)
    _) = _
  rw [List.mapM_cons, Surroundings.assignments_of_holds hholds]
  rfl

theorem load_offers (hholds : s.Holds t) (hrefers : ¬ DotEnv.Refers t)
    (hplain : SourceOptions.Plain arguments) (hapart : (s.offers t arguments).Apart)
    (standard : Settings) :
    (s.offers t arguments).Decides standard (load s standard arguments) := by
  rw [load_of_plain hholds hplain, DotEnv.read_of_not_refers hrefers]
  exact Offers.decides_sources hapart standard

/-- Loading settings is decided by what each field is offered: the first of the arguments, the
environment and the file of assignments that gives it a value does, no matter what those after it say
of the field. -/
theorem load_decided (hholds : s.Holds t) (hrefers : ¬ DotEnv.Refers t)
    (hplain : SourceOptions.Plain arguments) (hapart : (s.offers t arguments).Apart)
    (standard : Settings) :
    (s.offers t arguments).Decides standard (load s standard arguments) ∧
      ∀ p f, ((s.offers t arguments).given? p f).isSome → ∀ s' t', s'.Holds t' →
        ¬ DotEnv.Refers t' →
        (s'.offers t' arguments).exceptBelow f p = (s.offers t arguments).exceptBelow f p →
        load s' standard arguments = load s standard arguments := by
  have hdecides := load_offers hholds hrefers hplain hapart standard
  refine ⟨hdecides, fun p f hgiven s' t' hholds' hrefers' hsame => ?_⟩
  have hdecides' := load_offers hholds' hrefers' hplain (hapart.of_exceptBelow hsame) standard
  have hgiven' : ((s'.offers t' arguments).given? p f).isSome := by
    rw [← Offers.given?_exceptBelow_self, hsame, Offers.given?_exceptBelow_self]
    exact hgiven
  refine hdecides.eq hdecides' ?_ fun g => ?_
  · rw [← Offers.rejections_exceptBelow hgiven', hsame, Offers.rejections_exceptBelow hgiven]
  · rw [← Offers.taken_exceptBelow standard hgiven', hsame, Offers.taken_exceptBelow standard hgiven]

end Settings

/-! ### An argument that is an option -/

namespace OptionArgument

def surroundings : Surroundings :=
  { vantage := ⟨⟨[]⟩, .superuser, []⟩
    environment := []
    homes := ⟨[], []⟩ }

/-- There shall be no file of assignments. -/
def arguments : List (Text × Value) :=
  [("_env_file".toList, .null)]

def standard : Settings :=
  Settings.standard "pub".toList

/-- The argument is no setting, yet nothing is wrong with it. -/
theorem not_decided_option :
    surroundings.Holds [] ∧ ¬ DotEnv.Refers [] ∧ (surroundings.offers [] arguments).Apart ∧
      ¬ (surroundings.offers [] arguments).Decides standard
        (Settings.load surroundings standard arguments) := by
  have hload : Settings.load surroundings standard arguments = .ok standard := rfl
  have hwrong : (surroundings.offers [] arguments).rejections.length = 1 := by decide +kernel
  refine ⟨.nothing rfl rfl, by decide, nofun, fun hdecides => ?_⟩
  rw [((hdecides.accepts standard).mp hload).1] at hwrong
  cases hwrong

end OptionArgument

/-! ### A port that is offered three times -/

namespace OfferedPort

def text : Text :=
  "STATIC_SERVER_PORT=none\nSTATIC_SERVER_HTML_INDEX='maybe'\nLEVEL=1\n".toList

/-- The text without the port. -/
def rest : Text :=
  "STATIC_SERVER_HTML_INDEX='maybe'\nLEVEL=1\n".toList

def surroundings (environment : List (Text × Text)) (text : Text) : Surroundings :=
  { vantage := ⟨⟨[([".env".toList], ⟨.file (Utf8.encode text) 0, 0o644⟩)]⟩, .superuser, []⟩
    environment
    homes := ⟨[], []⟩ }

def environment : List (Text × Text) :=
  [("static_server_port".toList, "eighty".toList)]

def arguments : List (Text × Value) :=
  [("Port".toList, .int 80)]

def standard : Settings :=
  Settings.standard "pub".toList

/-- All that is wrong is in the file, and it is not what that says of the port. -/
theorem load_decided_port :
    (∃ rejections, Settings.load (surroundings environment text) standard arguments =
        .error (.invalid rejections) ∧
      rejections.map (fun r => (r.name, r.fault, r.input.shown)) =
        [("html_index".toList, .boolParsing, "maybe".toList),
          ("level".toList, .extraForbidden, ['1'])]) ∧
    Settings.load (surroundings [] rest) standard arguments =
      Settings.load (surroundings environment text) standard arguments := by
  have hholds (environment : List (Text × Text)) (text : Text)
      (hdecode : Charset.utf8.decode (Utf8.encode text) = .ok text) :
      (surroundings environment text).Holds text :=
    .text (e := ⟨.file (Utf8.encode text) 0, 0o644⟩) rfl rfl rfl hdecode
  have hplain : SourceOptions.Plain arguments := by
    intro a ha
    rw [List.mem_singleton.mp ha]
    decide +kernel
  have hapart : ((surroundings environment text).offers text arguments).Apart := by
    have hnone : ((surroundings environment text).offers text arguments).unknownArguments = [] :=
      List.eq_nil_of_length_eq_zero (by decide +kernel)
    unfold Offers.Apart
    rw [hnone]
    nofun
  obtain ⟨hdecides, hbelow⟩ := Settings.load_decided (hholds environment text rfl)
    (by decide +kernel) hplain hapart standard
  have hwrong : ((surroundings environment text).offers text arguments).rejections.map
      (fun r => (r.name, r.fault, r.input.shown)) =
        [("html_index".toList, .boolParsing, "maybe".toList),
          ("level".toList, .extraForbidden, ['1'])] := by
    decide +kernel
  have hsome : ((surroundings environment text).offers text arguments).rejections ≠ [] := by
    intro hnone
    rw [hnone] at hwrong
    cases hwrong
  refine ⟨⟨_, (hdecides.refuses _).mpr ⟨hsome, Eq.refl _⟩, hwrong⟩, ?_⟩
  refine hbelow .arguments .port (by decide +kernel) _ rest (hholds [] rest rfl)
    (by decide +kernel) ?_
  exact Offers.ext (show arguments = arguments from rfl) (by decide +kernel) (by decide +kernel)

end OfferedPort

end StaticSite
