import StaticSite.Proofs.Lines
import StaticSite.Proofs.Loading
import StaticSite.Proofs.Variables

/-! Texts between single quotes. With a backslash before each backslash and each single quote, any text
may stand there, newlines, comments and whole lines included, and is read again as it was. So a file in
which each line gives a text to a variable says what an environment with these variables says. -/

namespace StaticSite

/-! ### One text between quotes -/

namespace DotEnv

/-- A text with a backslash before each backslash and each single quote. -/
def escaped (t : Text) : Text :=
  t.flatMap fun c => if c = '\\' ∨ c = '\'' then ['\\', c] else [c]

/-- A text as it stands between single quotes. -/
def singleQuoted (t : Text) : Text :=
  '\'' :: (escaped t ++ ['\''])

theorem escaped_of_special {c : Char} (h : c = '\\' ∨ c = '\'') (t : Text) :
    escaped (c :: t) = '\\' :: c :: escaped t := by
  rw [escaped, List.flatMap_cons, if_pos h]
  rfl

theorem escaped_of_plain {c : Char} (h : ¬ (c = '\\' ∨ c = '\'')) (t : Text) :
    escaped (c :: t) = c :: escaped t := by
  rw [escaped, List.flatMap_cons, if_neg h]
  rfl

theorem mem_escaped {c : Char} (hc : c ≠ '\\') {t : Text} (h : c ∈ escaped t) : c ∈ t := by
  obtain ⟨d, hd, hmem⟩ := List.mem_flatMap.mp h
  split at hmem
  · rcases List.mem_cons.mp hmem with hmem | hmem
    · exact absurd hmem hc
    · rwa [List.mem_singleton.mp hmem]
  · rwa [List.mem_singleton.mp hmem]

/-- No quote within ends the text before its end. -/
theorem cutQuoted?_escaped (t rest : Text) :
    cutQuoted? '\'' (escaped t ++ '\'' :: rest) = some (escaped t, rest) := by
  induction t with
  | nil =>
      have hnone : escaped [] = [] := rfl
      rw [hnone, List.nil_append, cutQuoted?.eq_def]
      exact if_pos rfl
  | cons c t ih =>
      by_cases hc : c = '\\' ∨ c = '\''
      · rw [escaped_of_special hc, List.cons_append, List.cons_append, cutQuoted?,
          if_neg (by decide), if_pos rfl]
        dsimp only
        rw [ih]
        rfl
      · obtain ⟨hslash, hquote⟩ := not_or.mp hc
        rw [escaped_of_plain hc, List.cons_append, cutQuoted?.eq_def]
        dsimp only
        rw [if_neg hquote, if_neg hslash, ih]
        rfl

theorem unescape_cons {escapes : List (Char × Char)} {c : Char} (hc : c ≠ '\\') (t : Text) :
    unescape escapes (c :: t) = c :: unescape escapes t := by
  cases t with
  | nil => rfl
  | cons d t => rw [unescape, if_neg hc]

theorem unescape_escaped (t : Text) : unescape singleEscapes (escaped t) = t := by
  induction t with
  | nil => rfl
  | cons c t ih =>
      by_cases hc : c = '\\' ∨ c = '\''
      · have hmeant : singleEscapes.lookup c = some c := by
          rcases hc with rfl | rfl <;> decide
        rw [escaped_of_special hc, unescape, if_pos rfl, hmeant]
        exact congrArg (c :: ·) ih
      · rw [escaped_of_plain hc, unescape_cons (not_or.mp hc).1, ih]

theorem readValue_singleQuoted (t rest : Text) :
    readValue (singleQuoted t ++ rest) = .ok (t, rest) := by
  have hstart : (singleQuoted t ++ rest).dropWhile isLineBlank =
      '\'' :: (escaped t ++ '\'' :: rest) := by
    have hblank : isLineBlank '\'' = false := by decide
    rw [singleQuoted, List.cons_append, List.dropWhile_cons, hblank, if_neg Bool.false_ne_true,
      List.append_assoc]
    rfl
  simp only [readValue, hstart, if_true, cutQuoted?_escaped, unescape_escaped]

/-- Between quotes a text without carriage returns is what a name is given. -/
theorem Spells.assigns_singleQuoted {key name t : Text} (h : Spells key name) (ht : '\r' ∉ t) :
    Assigns (key ++ '=' :: singleQuoted t) ⟨name, some t⟩ := by
  apply h.assigns
  · intro hmem
    simp only [singleQuoted, List.mem_cons, List.mem_append, List.not_mem_nil, or_false] at hmem
    rcases hmem with hmem | hmem | hmem
    · exact absurd hmem (by decide)
    · exact ht (mem_escaped (by decide) hmem)
    · exact absurd hmem (by decide)
  · intro rest hrest
    exact ⟨rest, readValue_singleQuoted t rest, readLineEnd_of_followsLine hrest⟩

end DotEnv

/-! ### Texts for fields -/

namespace Field

/-- Some fields with a text for each, as variables of an environment. -/
def environmentOf (given : List (Field × Text)) : List (Text × Text) :=
  given.map fun (f, t) => (f.variableName, t)

/-- The same as lines of a file. -/
def linesOf (given : List (Field × Text)) : List Text :=
  given.map fun (f, t) => f.variableName ++ '=' :: DotEnv.singleQuoted t

/-- What such lines assign. -/
def assignmentsOf (given : List (Field × Text)) : List DotEnv.Assignment :=
  given.map fun (f, t) => ⟨f.variableName, some t⟩

theorem spells_variableName (f : Field) : DotEnv.Spells f.variableName f.variableName := by
  have hchars : f.variableName.all DotEnv.isNameChar = true := by
    cases f <;> decide
  apply DotEnv.Spells.bare
  · cases f <;> decide
  · exact List.all_eq_true.mp hchars
  · cases f <;> decide

variable {given : List (Field × Text)}

theorem lines_assign (h : ∀ a ∈ given, '\r' ∉ a.2) :
    List.Forall₂ DotEnv.Assigns (linesOf given) (assignmentsOf given) := by
  rw [linesOf, assignmentsOf, List.forall₂_map_left_iff, List.forall₂_map_right_iff, List.forall₂_same]
  intro a ha
  exact a.1.spells_variableName.assigns_singleQuoted (h a ha)

/-- The lines are read as what they assign. -/
theorem read_lines (h : ∀ a ∈ given, '\r' ∉ a.2 ∧ ¬ DotEnv.Refers a.2) {t : Text}
    (ht : DotEnv.MadeOf (linesOf given) t) (environment : List (Text × Text)) :
    DotEnv.read environment t = assignmentsOf given := by
  have hlines := lines_assign fun a ha => (h a ha).1
  refine DotEnv.read_of_madeOf ht hlines ?_ ?_ environment
  · intro c hc
    obtain ⟨line, hline, hfirst, -⟩ := ht.mem_head? hlines hc
    obtain ⟨a, -, rfl⟩ := List.mem_map.mp hline
    cases hfirst
    decide
  · intro b hb v hv
    obtain ⟨a, ha, rfl⟩ := List.mem_map.mp hb
    cases hv
    exact (h a ha).2

theorem nodup_lower_variableName (h : (given.map (·.1)).Nodup) :
    (given.map (·.1.variableName.lower)).Nodup := by
  have hnames : given.map (·.1.variableName.lower) = (given.map (·.1)).map Place.file.nameOf := by
    rw [List.map_map]
    exact List.map_congr_left fun a _ => a.1.lower_variableName
  rw [hnames]
  exact h.map fun f g hname => eq_of_nameOf hname

end Field

/-! ### A file and an environment that say the same -/

namespace Offers
variable {o o' : Offers} {given : List (Field × Text)}

theorem entries_file_of_lines (hfile : o.file = Field.assignmentsOf given) (h : (given.map (·.1)).Nodup) :
    o.entries .file = given.map fun (f, t) => (f.variableName, some (.text t)) := by
  have hnames : ((Field.assignmentsOf given).map (·.name)).Nodup := by
    have hlower := Field.nodup_lower_variableName h
    rw [Field.assignmentsOf, List.map_map]
    exact List.Nodup.of_map Text.lower (by rwa [List.map_map])
  rw [entries_file, hfile, DotEnv.collapse_of_nodup hnames, Field.assignmentsOf, List.map_map]
  rfl

/-- Lines for fields leave nothing over. -/
theorem unknownAssignments_of_lines (hfile : o.file = Field.assignmentsOf given)
    (h : (given.map (·.1)).Nodup) : o.unknownAssignments = [] := by
  rw [unknownAssignments, entries_file_of_lines hfile h, List.filterMap_eq_nil_iff]
  intro name hname
  rw [List.mem_eraseDups, List.map_map] at hname
  obtain ⟨a, -, rfl⟩ := List.mem_map.mp hname
  have hknown : isKnown a.1.variableName.lower = true := by
    rw [a.1.lower_variableName]
    exact isKnown_nameOf a.1
  exact if_pos hknown

/-- The variables give each field what the lines give it. -/
theorem given?_of_lines (hfile : o.file = Field.assignmentsOf given) (h : (given.map (·.1)).Nodup)
    (henvironment : o'.environment.Perm (Field.environmentOf given)) (f : Field) :
    o.given? .file f = o'.given? .environment f := by
  have hentries := entries_file_of_lines hfile h
  have hperm : (o.entries .file).Perm (o'.entries .environment) := by
    have hvariables := (henvironment.map fun entry => (entry.1, some (Value.text entry.2))).symm
    rw [Field.environmentOf, List.map_map] at hvariables
    rw [hentries]
    exact hvariables
  have hdistinct : ((o.entries .file).map (·.1.lower)).Nodup := by
    rw [hentries, List.map_map]
    exact Field.nodup_lower_variableName h
  exact value?_of_perm hperm hdistinct _

/-- So the same counts for it, whatever the arguments say, if there are no other variables and no other
file. -/
theorem chosen?_of_lines (hfile : o.file = Field.assignmentsOf given) (h : (given.map (·.1)).Nodup)
    (hnone : o.environment = []) (harguments : o'.arguments = o.arguments)
    (hnofile : o'.file = []) (henvironment : o'.environment.Perm (Field.environmentOf given))
    (f : Field) : o.chosen? f = o'.chosen? f := by
  have hfirst : o'.given? .arguments f = o.given? .arguments f := by
    rw [given?, given?, value?, value?, entries, entries, harguments]
  have hsecond : o.given? .environment f = none := by
    rw [given?, value?, entries, hnone]
    rfl
  have hthird : o'.given? .file f = none := by
    rw [given?, value?, entries, hnofile]
    rfl
  simp only [chosen?, Place.all, List.findSome?_cons, List.findSome?_nil, hfirst, hsecond, hthird,
    given?_of_lines hfile h henvironment]

end Offers

namespace Settings
variable {s s' : Surroundings} {given : List (Field × Text)} {arguments : List (Text × Value)}

/-- Texts for some fields mean the same between single quotes in a file, one line for each in any order,
as they mean in an environment. -/
theorem load_quoted (hdistinct : (given.map (·.1)).Nodup)
    (htexts : ∀ a ∈ given, '\r' ∉ a.2 ∧ ¬ DotEnv.Refers a.2) {t : Text}
    (ht : DotEnv.MadeOf (Field.linesOf given) t) (hfile : s.Holds t) (hnone : s.environment = [])
    (hnofile : s'.Holds []) (hvariables : s'.environment.Perm (Field.environmentOf given))
    (hplain : SourceOptions.Plain arguments) (standard : Settings) :
    load s standard arguments = load s' standard arguments := by
  let o : Offers := ⟨arguments, [], Field.assignmentsOf given⟩
  let o' : Offers := ⟨arguments, s'.environment, []⟩
  have hload : load s standard arguments = (o.sources.settings standard).mapError .invalid := by
    rw [load_of_plain hfile hplain, hnone, Field.read_lines htexts ht]
  have hload' : load s' standard arguments = (o'.sources.settings standard).mapError .invalid :=
    load_of_plain hnofile hplain standard
  have hchosen : ∀ f, o.sources.chosen? f = o'.sources.chosen? f := by
    intro f
    have harguments : o'.arguments = o.arguments := rfl
    have hoffered : o.chosen? f = o'.chosen? f :=
      Offers.chosen?_of_lines rfl hdistinct rfl harguments rfl hvariables f
    rw [Offers.chosen?_sources, Offers.chosen?_sources, hoffered]
  have hextras : o.sources.extras = o'.sources.extras := by
    have hover : o.unknownAssignments = [] := Offers.unknownAssignments_of_lines rfl hdistinct
    rw [Sources.extras, Sources.extras, Offers.fileExtras_sources, Offers.fileExtras_sources, hover]
    rfl
  rw [hload, hload', Sources.settings_congr hchosen hextras]

end Settings

/-! ### A text that looks like lines -/

namespace LinesWithin

/-- A host that ends with a backslash and holds one more, a quote, a newline, a comment and a line. -/
def given : List (Field × Text) :=
  [(.port, " 8_0".toList), (.host, "it's\\\n# export STATIC_SERVER_PORT=\"1\"\\".toList)]

def text : Text :=
  "STATIC_SERVER_PORT=' 8_0'\r\nSTATIC_SERVER_HOST='it\\'s\\\\\n# export STATIC_SERVER_PORT=\"1\"\\\\'".toList

def settings : Settings :=
  { Settings.standard "pub".toList with
    host := "it's\\\n# export STATIC_SERVER_PORT=\"1\"\\".toList
    port := 80 }

/-- A process that finds some entries in its directory. -/
def surroundings (entries : List (Location × Entry)) (environment : List (Text × Text)) : Surroundings :=
  { vantage := ⟨⟨entries⟩, .superuser, []⟩
    environment
    homes := ⟨[], []⟩ }

def file : Entry :=
  ⟨.file (Utf8.encode text) 0, 0o644⟩

theorem load_quoted_lines :
    Settings.load (surroundings [([".env".toList], file)] []) (.standard "pub".toList) [] = .ok settings ∧
      Settings.load (surroundings [] (Field.environmentOf given).reverse) (.standard "pub".toList) [] =
        .ok settings := by
  have hmade : DotEnv.MadeOf (Field.linesOf given) text := by
    have htext : text = "STATIC_SERVER_PORT=' 8_0'".toList ++ ['\r', '\n'] ++
        "STATIC_SERVER_HOST='it\\'s\\\\\n# export STATIC_SERVER_PORT=\"1\"\\\\'".toList := by decide
    have hlines : Field.linesOf given = ["STATIC_SERVER_PORT=' 8_0'".toList,
        "STATIC_SERVER_HOST='it\\'s\\\\\n# export STATIC_SERVER_PORT=\"1\"\\\\'".toList] := by
      decide +kernel
    rw [htext, hlines]
    exact .ended (by decide) (.unended _)
  have hfile : (surroundings [([".env".toList], file)] []).Holds text := by
    have hdecode : Charset.utf8.decode (Utf8.encode text) = .ok text := rfl
    exact .text (e := file) rfl rfl rfl hdecode
  have hdistinct : (given.map (·.1)).Nodup := by decide
  have htexts : ∀ a ∈ given, '\r' ∉ a.2 ∧ ¬ DotEnv.Refers a.2 := by decide +kernel
  have hnofile : (surroundings [] (Field.environmentOf given).reverse).Holds [] := .nothing rfl rfl
  have hload : Settings.load (surroundings [] (Field.environmentOf given).reverse)
      (.standard "pub".toList) [] = .ok settings :=
    ok_of_toOption (by decide +kernel)
  refine ⟨Eq.trans ?_ hload, hload⟩
  exact Settings.load_quoted hdistinct htexts hmade hfile rfl hnofile (List.reverse_perm _)
    (List.forall_mem_nil _) (.standard "pub".toList)

end LinesWithin

end StaticSite
