import StaticSite.Proofs.Loading
import StaticSite.Proofs.Spelling

/-! Loading settings anew with names spelled in another way. Two runs have the same arguments, which do
not make letter case matter; the names of variables and of the lines of a file differ between them, and
what else the arguments name is read alike. Then the settings are the same, and what is wrong with
them, up to the order in which the lines stand. -/

namespace StaticSite

open DotEnv

namespace Surroundings
variable {s s' : Surroundings} {coding place : Value} {t : Text} {lines lines' : List Line}

/-- The text that the file at a place holds in a charset; none if there is no regular file. -/
inductive HoldsAt (s : Surroundings) (coding place : Value) : Text → Prop
  | nothing {path : Text} {found : Option Entry} (hpath : s.path place = .ok path)
      (hentry : s.entry? path = .ok found) (hfile : found.filter Entry.isFile = none) :
      HoldsAt s coding place []
  | text {path t : Text} {found : Option Entry} {e : Entry} {bytes : List UInt8} {known : Charset}
      (hpath : s.path place = .ok path) (hentry : s.entry? path = .ok found)
      (hfile : found.filter Entry.isFile = some e) (hcharset : charset coding = .ok known)
      (hread : s.vantage.read (Path.ofText path) = .ok bytes) (hdecode : known.decode bytes = .ok t) :
      HoldsAt s coding place t

theorem assignments_of_holdsAt (h : s.HoldsAt coding place t) :
    s.assignments coding place = .ok (DotEnv.read s.environment t) := by
  cases h with
  | nothing hpath hentry hfile =>
      rw [assignments, hpath]
      simp only [bind, Except.bind, hentry, hfile]
      rfl
  | text hpath hentry hfile hcharset hread hdecode =>
      rw [assignments, hpath]
      simp only [bind, Except.bind, hentry, hfile, hcharset, hread, hdecode]
      rfl

/-- Where the usual file holds a text, so does the place that stands for it. -/
theorem Holds.holdsAt (h : s.Holds t) : s.HoldsAt .null (.text ".env".toList) t := by
  have hpath : s.path (.text ".env".toList) = .ok ".env".toList := rfl
  cases h with
  | nothing hentry hfile => exact .nothing hpath hentry hfile
  | text hentry hfile hread hdecode => exact .text hpath hentry hfile rfl hread hdecode

/-- What is read at a place in two runs: the same, or texts that are made of lines, with no mark before
them. -/
inductive ReadsAnew (lines' lines : List Line) (s' s : Surroundings) (coding place : Value) : Prop
  | same (h : s'.assignments coding place = s.assignments coding place)
  | lines {t' t : Text} (held' : s'.HoldsAt coding place t') (held : s.HoldsAt coding place t)
      (made' : MadeOf (lines'.map Line.text) t') (made : MadeOf (lines.map Line.text) t)
      (unmarked' : ∀ c ∈ t'.head?, c.toNat ≠ 0xfeff) (unmarked : ∀ c ∈ t.head?, c.toNat ≠ 0xfeff)

theorem ReadsAnew.alike (h : ReadsAnew lines' lines s' s coding place) :
    Alike (Respelled lines' lines) (s'.assignments coding place) (s.assignments coding place) := by
  cases h with
  | same h =>
      rw [h]
      cases s.assignments coding place with
      | error e => exact .error e
      | ok file => exact .ok (.same file)
  | lines held' held made' made unmarked' unmarked =>
      rw [assignments_of_holdsAt held', assignments_of_holdsAt held,
        read_of_plainLines made' unmarked', read_of_plainLines made unmarked]
      exact .ok .lines

/-- Two runs with the same arguments in which names are spelled anew: those of variables, in any order,
and those of the lines of a file. What else the arguments name is read alike. -/
structure Respells (lines' lines : List Line) (arguments : List (Text × Value))
    (s' s : Surroundings) : Prop where
  anyCase : SourceOptions.readExactCase arguments = false
  environment : (Sources.folded s'.environment).Perm (Sources.folded s.environment)
  distinct : (s.environment.map (·.1.lower)).Nodup
  distinctLines : (lines.map (·.name.lower)).Nodup
  files : ∀ named, places (SourcePlaces.read arguments).files = .ok named → ∀ place ∈ named,
    ReadsAnew lines' lines s' s (SourcePlaces.read arguments).charset place
  secrets : ∀ o, s'.secrets o (SourcePlaces.read arguments).secrets =
    s.secrets o (SourcePlaces.read arguments).secrets

/-- Where the arguments name no file, charset or directory of their own, it is enough that the usual
file is made of the lines. -/
theorem Respells.of_usual {arguments : List (Text × Value)} {t' : Text}
    (hfile : arguments.lookup "_env_file".toList = none)
    (hcharset : arguments.lookup "_env_file_encoding".toList = none)
    (hsecrets : arguments.lookup "_secrets_dir".toList = none)
    (hcase : SourceOptions.readExactCase arguments = false)
    (henvironment : (Sources.folded s'.environment).Perm (Sources.folded s.environment))
    (hdistinct : (s.environment.map (·.1.lower)).Nodup) (hlines : (lines.map (·.name.lower)).Nodup)
    (held' : s'.Holds t') (held : s.Holds t) (made' : MadeOf (lines'.map Line.text) t')
    (made : MadeOf (lines.map Line.text) t) (unmarked' : ∀ c ∈ t'.head?, c.toNat ≠ 0xfeff)
    (unmarked : ∀ c ∈ t.head?, c.toNat ≠ 0xfeff) : Respells lines' lines arguments s' s where
  anyCase := hcase
  environment := henvironment
  distinct := hdistinct
  distinctLines := hlines
  files := by
    intro named hnamed place hplace
    have hplaces : (SourcePlaces.read arguments).files = .text ".env".toList := by
      rw [SourcePlaces.read, argumentOr, hfile, Option.getD_none]
    have hcoding : (SourcePlaces.read arguments).charset = .null := by
      rw [SourcePlaces.read, argumentOr, hfile, Option.getD_none]
      dsimp only
      rw [argumentOr, hcharset, Option.getD_none]
    rw [hplaces] at hnamed
    cases hnamed
    rw [List.mem_singleton.mp hplace, hcoding]
    exact .lines held'.holdsAt held.holdsAt made' made unmarked' unmarked
  secrets := by
    intro o
    have hdirectories : (SourcePlaces.read arguments).secrets = .null :=
      congrArg (Option.getD · Value.null) hsecrets
    have hnone : ∀ s : Surroundings, s.secrets o .null = .ok [] := fun s => rfl
    rw [hdirectories, hnone, hnone]

theorem exactCase_of_options {arguments : List (Text × Value)} {o : SourceOptions}
    (h : options arguments = .ok o) : o.exactCase = SourceOptions.readExactCase arguments := by
  rw [options, SourceOptions.read?] at h
  split at h
  next o' hread =>
    cases h
    obtain ⟨start, -, rfl⟩ := Option.map_eq_some_iff.mp hread
    rfl
  · cases h

end Surroundings

namespace Settings
variable {s s' : Surroundings} {lines lines' : List Line} {arguments : List (Text × Value)}

/-- What relates the outcomes of all sources that are spelled anew relates those of loading. -/
theorem load_of_respells (h : Surroundings.Respells lines' lines arguments s' s) (standard : Settings)
    {S : Except SettingsError Settings → Except SettingsError Settings → Prop}
    (hsame : ∀ outcome, S outcome outcome)
    (hsettings : ∀ sources' sources, Sources.Respells lines' lines sources' sources →
      S ((sources'.settings standard).mapError .invalid) ((sources.settings standard).mapError .invalid)) :
    S (load s' standard arguments) (load s standard arguments) := by
  have herror : ∀ e, S (.error e) (.error e) := fun e => hsame (.error e)
  unfold load
  refine (Alike.refl _).bind herror ?_
  rintro brought _ ⟨rfl, -⟩
  cases brought with
  | true => exact hsame (.ok standard)
  | false =>
      simp only [Bool.false_eq_true, if_false]
      refine (Alike.refl _).bind herror ?_
      rintro named _ ⟨rfl, hnamed⟩
      refine (Alike.mapM fun place hplace => (h.files named hnamed place hplace).alike).bind herror ?_
      intro files' files hfiles
      refine (Alike.refl _).bind herror ?_
      rintro commandLine _ ⟨rfl, -⟩
      refine (Alike.refl _).bind herror ?_
      rintro options _ ⟨rfl, hoptions⟩
      rw [h.secrets]
      refine (Alike.refl _).bind herror ?_
      rintro secrets _ ⟨rfl, -⟩
      apply hsettings
      exact
        { options := rfl
          anyCase := (Surroundings.exactCase_of_options hoptions).trans h.anyCase
          commandLine := rfl
          arguments := rfl
          environment := h.environment
          distinct := h.distinct
          files := hfiles
          secrets := rfl }

/-- Settings do not depend on how names are spelled in capital or small letters of ASCII, nor on the
order of variables; the order of lines decides only in which order names that stand for nothing are
told. -/
theorem load_respelled (h : Surroundings.Respells lines' lines arguments s' s) (standard : Settings) :
    (lines'.map Line.folded = lines.map Line.folded →
      load s' standard arguments = load s standard arguments) ∧
    ((lines'.map Line.folded).Perm (lines.map Line.folded) →
      AlikeInOrder (load s' standard arguments) (load s standard arguments)) := by
  constructor
  · intro hsame
    refine load_of_respells h standard (S := Eq) (fun _ => rfl) fun sources' sources hrespells => ?_
    have hchosen := hrespells.chosen?_eq h.distinctLines (.of_eq hsame)
    have hassignments := hrespells.assignments_eq h.distinctLines hsame
    rw [Sources.settings_congr hchosen (hrespells.extras_eq hassignments)]
  · intro hperm
    refine load_of_respells h standard .same fun sources' sources hrespells => ?_
    have hassignments := hrespells.assignments_perm h.distinctLines hperm
    exact Sources.alikeInOrder (hrespells.chosen?_eq h.distinctLines hperm)
      (hrespells.extras_perm hassignments) standard

end Settings

/-! ### Where spelling counts -/

namespace RespelledNames

/-- A file of assignments. -/
def file (text : Text) : Location × Entry :=
  ([".env".toList], ⟨.file (Utf8.encode text) 0, 0o644⟩)

def surroundings (entries : List (Location × Entry)) (environment : List (Text × Text)) : Surroundings :=
  { vantage := ⟨⟨entries⟩, .superuser, []⟩
    environment
    homes := ⟨"/root".toList, []⟩ }

def standard : Settings :=
  Settings.standard "pub".toList

theorem unmarked_of_all {value : Text} (h : value.all (fun c => decide (c ∉ valueMarks)) = true) :
    ∀ c ∈ value, c ∉ valueMarks :=
  fun c hc => of_decide_eq_true (List.all_eq_true.mp h c hc)

/-- The line of a bare name and a value. -/
def bareLine (name value : String)
    (hname : name.toList ≠ [] ∧ name.toList.all isNameChar = true ∧ name.toList.head? ≠ some '\'')
    (hvalue : value.toList.all (fun c => decide (c ∉ valueMarks)) = true ∧ ¬ Refers value.toList) :
    Line where
  key := name.toList
  name := name.toList
  value := value.toList
  spells := .bare hname.1 (List.all_eq_true.mp hname.2.1) hname.2.2
  unmarked := unmarked_of_all hvalue.1
  plain := hvalue.2

/-- Letter case counts if an argument says so. -/
def exactCase : List (Text × Value) :=
  [("_case_sensitive".toList, .bool true)]

/-- The variable for the home counts where the path of a file begins there. -/
def fileAtHome : List (Text × Value) :=
  [("_env_file".toList, .text "~/.env".toList)]

def port : Line :=
  bareLine "STATIC_SERVER_PORT" "92" (by decide) (by decide)

/-- A port, with the mark before its name that files may begin with. -/
def markedPort : Line :=
  bareLine "\uFEFFSTATIC_SERVER_PORT" "92" (by decide) (by decide)

def host : Line :=
  bareLine "STATIC_SERVER_HOST" "h" (by decide) (by decide)

/-- The mark is dropped at the beginning of a file. -/
def markedFirst : Text :=
  markedPort.text ++ '\n' :: host.text

def markedLast : Text :=
  host.text ++ '\n' :: markedPort.text

/-- Letter case counts in the name of a variable and in that of the home, and so does the order of
lines. -/
theorem not_respelled :
    (Settings.load (surroundings [] [("STATIC_SERVER_port".toList, "92".toList)]) standard exactCase =
        .ok { standard with port := 92 } ∧
      Settings.load (surroundings [] [("STATIC_SERVER_PORT".toList, "92".toList)]) standard exactCase =
        .ok standard) ∧
    (Settings.load (surroundings [file port.text] [("HOME".toList, ['.'])]) standard fileAtHome =
        .ok { standard with port := 92 } ∧
      Settings.load (surroundings [file port.text] [("home".toList, ['.'])]) standard fileAtHome =
        .ok standard) ∧
    (MadeOf ([markedPort, host].map Line.text) markedFirst ∧
      MadeOf ([host, markedPort].map Line.text) markedLast ∧
      Settings.load (surroundings [file markedFirst] []) standard [] =
        .ok { standard with host := ['h'], port := 92 } ∧
      ∃ rejections, Settings.load (surroundings [file markedLast] []) standard [] =
          .error (.invalid rejections) ∧
        rejections.map (·.name) = ["\uFEFFstatic_server_port".toList]) := by
  refine ⟨⟨ok_of_toOption (by decide +kernel), ok_of_toOption (by decide +kernel)⟩,
    ⟨ok_of_toOption (by decide +kernel), ok_of_toOption (by decide +kernel)⟩, ?_, ?_,
    ok_of_toOption (by decide +kernel), _, rfl, by decide +kernel⟩
  · exact .newline _ (.unended _)
  · exact .newline _ (.unended _)

/-! ### Where it does not -/

def arguments : List (Text × Value) :=
  [("_env_ignore_empty".toList, .bool true), ("colour".toList, .int 1)]

def environment : List (Text × Text) :=
  [("Static_Server_Html_Index".toList, "no".toList), ("path".toList, ['x'])]

/-- The same variables, spelled anew and in another order. -/
def environmentAnew : List (Text × Text) :=
  [("PATH".toList, ['x']), ("STATIC_SERVER_HTML_INDEX".toList, "no".toList)]

def level : Line where
  key := '\'' :: ("Level".toList ++ ['\''])
  name := "Level".toList
  value := " high # and low".toList
  spells := .quoted (by decide) (by decide) (by decide)
  unmarked := unmarked_of_all (by decide)
  plain := by decide

def levelAnew : Line :=
  bareLine "LEVEL" " high # and low" (by decide) (by decide)

def stage : Line :=
  bareLine "stage" "1" (by decide) (by decide)

def stageAnew : Line :=
  bareLine "Stage" "1" (by decide) (by decide)

def text : Text :=
  level.text ++ '\n' :: stage.text

/-- The lines spelled anew. -/
def textAnew : Text :=
  levelAnew.text ++ '\n' :: stageAnew.text

/-- The same in another order. -/
def textTurned : Text :=
  stageAnew.text ++ '\n' :: levelAnew.text

theorem holds_file (environment : List (Text × Text)) {t : Text}
    (hdecode : Charset.utf8.decode (Utf8.encode t) = .ok t) :
    (surroundings [file t] environment).Holds t :=
  .text (e := (file t).2) rfl rfl rfl hdecode

/-- Names that stand for nothing are told in the order of their lines, before those of arguments. -/
theorem load_respelled_turned :
    Settings.load (surroundings [file textAnew] environmentAnew) standard arguments =
        Settings.load (surroundings [file text] environment) standard arguments ∧
      AlikeInOrder (Settings.load (surroundings [file textTurned] environmentAnew) standard arguments)
        (Settings.load (surroundings [file text] environment) standard arguments) ∧
      ∃ rejections, Settings.load (surroundings [file text] environment) standard arguments =
          .error (.invalid rejections) ∧
        rejections.map (fun r => (r.name, r.input.shown)) =
          [("level".toList, "high".toList), ("stage".toList, ['1']), ("colour".toList, ['1'])] := by
  have henvironment : (Sources.folded environmentAnew).Perm (Sources.folded environment) := by
    decide +kernel
  have hdistinct : (environment.map (·.1.lower)).Nodup := by decide +kernel
  have hlines : ([level, stage].map (·.name.lower)).Nodup := by decide +kernel
  have hheld := holds_file environment (t := text) rfl
  have hmade : MadeOf ([level, stage].map Line.text) text := .newline _ (.unended _)
  have hmark : ∀ c ∈ text.head?, c.toNat ≠ 0xfeff := by
    rintro _ ⟨⟩
    decide
  have hmarkAnew : ∀ c ∈ textAnew.head?, c.toNat ≠ 0xfeff := by
    rintro _ ⟨⟩
    decide
  have hmarkTurned : ∀ c ∈ textTurned.head?, c.toNat ≠ 0xfeff := by
    rintro _ ⟨⟩
    decide
  have hanew : Surroundings.Respells [levelAnew, stageAnew] [level, stage] arguments
      (surroundings [file textAnew] environmentAnew) (surroundings [file text] environment) :=
    .of_usual (by decide) (by decide) (by decide) rfl henvironment hdistinct hlines
      (holds_file environmentAnew rfl) hheld (.newline _ (.unended _)) hmade hmarkAnew hmark
  have hturned : Surroundings.Respells [stageAnew, levelAnew] [level, stage] arguments
      (surroundings [file textTurned] environmentAnew) (surroundings [file text] environment) :=
    .of_usual (by decide) (by decide) (by decide) rfl henvironment hdistinct hlines
      (holds_file environmentAnew rfl) hheld (.newline _ (.unended _)) hmade hmarkTurned hmark
  refine ⟨(Settings.load_respelled hanew standard).1 (by decide),
    (Settings.load_respelled hturned standard).2 (by decide), ?_⟩
  exact ⟨_, rfl, by decide +kernel⟩

end RespelledNames

end StaticSite
