import StaticSite.Proofs.LetterCase
import StaticSite.Proofs.StartOutcome
import StaticSite.Proofs.Variables

/-! The names of levels as the two readers of the level know them. The program takes a name in upper
case by all the rules for letters, the server in lower case; each of them comes to a name that is
spelled letter by letter, and it is told which texts one of them takes and the other does not. -/

namespace StaticSite

namespace Text

/-! ### Letters whose case is a letter of ASCII -/

theorem isUpper_iff {c : Char} : c.isUpper = true ↔ 65 ≤ c.toNat ∧ c.toNat ≤ 90 :=
  decide_eq_true_iff

theorem isLower_iff {c : Char} : c.isLower = true ↔ 97 ≤ c.toNat ∧ c.toNat ≤ 122 := by
  rw [Char.isLower, Bool.and_eq_true, decide_eq_true_eq, decide_eq_true_eq]
  exact Iff.rfl

/-- What holds of twenty-six characters holds of each small letter of ASCII. -/
theorem forall_isLower {P : Char → Prop} (h : ∀ n ∈ List.range' 97 26, P (Char.ofNat n)) (c : Char)
    (hc : c.isLower = true) : P c := by
  have hbounds : 97 ≤ c.toNat ∧ c.toNat ≤ 122 := isLower_iff.mp hc
  rw [← Char.ofNat_toNat c]
  apply h
  rw [List.mem_range'_1]
  omega

/-- What a letter is turned to by some runs is the letter itself, or is told by one of the runs. -/
theorem cases_of_runs {runs : List CaseRun} {n image : Nat}
    (h : (runs.findSome? (CaseRun.map? · n)).getD n = image) :
    n = image ∨ ∃ r ∈ runs, r.first ≤ n ∧ n ≤ r.last ∧ (n + r.shift).toNat = image := by
  cases hfound : runs.findSome? (CaseRun.map? · n) with
  | none =>
      rw [hfound] at h
      exact Or.inl h
  | some value =>
      rw [hfound, Option.getD_some] at h
      subst h
      obtain ⟨r, hr, hvalue⟩ := List.exists_of_findSome?_eq_some hfound
      rw [CaseRun.map?] at hvalue
      split at hvalue
      · rename_i hwithin
        exact Or.inr ⟨r, hr, hwithin.1, hwithin.2.1, Option.some.inj hvalue⟩
      · cases hvalue

theorem toNat_ofNat_of_ne {n : Nat} (h : (Char.ofNat n).toNat ≠ 0) : (Char.ofNat n).toNat = n := by
  rw [Char.toNat_ofNat] at h ⊢
  split at h
  · rw [if_pos ‹_›]
  · exact absurd rfl h

/-! ### Upper case -/

/-- The capital of a letter, as far as it is a letter of ASCII. Beside the small letters of ASCII, the
dotless i and the long s have such capitals. -/
def capital (c : Char) : Char :=
  if c = 'ı' then 'I' else if c = 'ſ' then 'S' else c.toUpper

/-- The runs that lead to capitals of ASCII. -/
theorem capitals_of_upperRuns : ∀ r ∈ upperRuns, (r.last : Int) + r.shift < 65 ∨
    90 < (r.first : Int) + r.shift ∨ (r.first = 97 ∧ r.last = 122 ∧ r.shift = -32) ∨
      (r.first = 305 ∧ r.last = 305 ∧ r.shift = -232) ∨
        (r.first = 383 ∧ r.last = 383 ∧ r.shift = -300) := by
  decide +kernel

theorem upperChar_of_isUpper_capital {c : Char} (h : (capital c).isUpper = true) :
    upperChar c = [capital c] := by
  unfold capital at h ⊢
  split
  · subst ‹c = 'ı'›
    decide +kernel
  split
  · subst ‹c = 'ſ'›
    decide +kernel
  rw [if_neg ‹¬ c = 'ı'›, if_neg ‹¬ c = 'ſ'›, Char.isUpper_toUpper_eq_isAlpha, Char.isAlpha,
    Bool.or_eq_true] at h
  rcases h with h | h
  · exact forall_isUpper (P := fun c => upperChar c = [c.toUpper]) (by decide +kernel) c h
  · exact forall_isLower (P := fun c => upperChar c = [c.toUpper]) (by decide +kernel) c h

/-- A letter of ASCII is its own capital or has one. -/
theorem isUpper_capital_of_isAlpha {c : Char} (h : c.isAlpha = true) : (capital c).isUpper = true := by
  unfold capital
  split
  · rfl
  split
  · rfl
  · rw [Char.isUpper_toUpper_eq_isAlpha, h]

/-- Only letters of ASCII and the two others are turned to a single capital of ASCII. -/
theorem isUpper_capital {c : Char}
    (h : (Char.ofNat ((upperRuns.findSome? (CaseRun.map? · c.toNat)).getD c.toNat)).isUpper = true) :
    (capital c).isUpper = true := by
  have hbounds := isUpper_iff.mp h
  rw [toNat_ofNat_of_ne (by omega)] at hbounds
  rcases cases_of_runs rfl with himage | ⟨r, hr, hfirst, hlast, himage⟩
  · rw [← himage] at hbounds
    refine isUpper_capital_of_isAlpha ?_
    rw [Char.isAlpha, isUpper_iff.mpr hbounds, Bool.true_or]
  · rw [← himage] at hbounds
    rcases capitals_of_upperRuns r hr with hlow | hhigh | ⟨hr, hr', -⟩ | ⟨hr, hr', -⟩ | ⟨hr, hr', -⟩
    · omega
    · omega
    · refine isUpper_capital_of_isAlpha ?_
      rw [Char.isAlpha, isLower_iff.mpr (by omega), Bool.or_true]
    · have hc : c = 'ı' := Char.toNat_inj.mp (by rw [show c.toNat = 305 by omega]; rfl)
      rw [hc]
      rfl
    · have hc : c = 'ſ' := Char.toNat_inj.mp (by rw [show c.toNat = 383 by omega]; rfl)
      rw [hc]
      rfl

theorem upperChar_cases (c : Char) :
    (∃ e ∈ upperExpansions, upperChar c = e.2.map Char.ofNat) ∨
      upperChar c = [Char.ofNat ((upperRuns.findSome? (CaseRun.map? · c.toNat)).getD c.toNat)] := by
  unfold upperChar
  split
  · rename_i ns hfound
    obtain ⟨before, after, hsplit, -⟩ := List.lookup_eq_some_iff.mp hfound
    exact Or.inl ⟨(c.toNat, ns), by rw [hsplit]; exact List.mem_append_right _ List.mem_cons_self, rfl⟩
  · exact Or.inr rfl

theorem upper_of_capitals {t : Text} (h : ∀ c ∈ t, upperChar c = [capital c]) :
    t.upper = t.map capital := by
  rw [upper, List.flatMap_congr h]
  exact List.flatMap_pure_eq_map capital t

/-- A text has a word of capitals of ASCII as its upper case if and only if it is spelled as this
word, letter by letter, provided that no letter stands for a part of the word at once. -/
theorem upper_eq_iff {t w : Text} (hcapitals : ∀ d ∈ w, d.isUpper = true)
    (hapart : ∀ e ∈ upperExpansions, ¬ e.2.map Char.ofNat <:+: w) :
    t.upper = w ↔ t.map capital = w := by
  constructor
  · rintro rfl
    refine (upper_of_capitals fun c hc => upperChar_of_isUpper_capital ?_).symm
    have hpart : upperChar c <:+: t.upper := by
      rw [upper, List.flatMap_def]
      exact List.infix_of_mem_flatten (List.mem_map_of_mem hc)
    rcases upperChar_cases c with ⟨e, he, himage⟩ | himage
    · rw [himage] at hpart
      exact absurd hpart (hapart e he)
    · refine isUpper_capital (hcapitals _ (hpart.subset ?_))
      rw [himage]
      exact List.mem_singleton_self _
  · rintro rfl
    exact upper_of_capitals fun c hc =>
      upperChar_of_isUpper_capital (hcapitals _ (List.mem_map_of_mem hc))

/-! ### Lower case -/

/-- The runs that lead to small letters of ASCII. Beside the capitals, only the sign of the kelvin has
such a small letter. -/
theorem smalls_of_lowerRuns : ∀ r ∈ lowerRuns, (r.last : Int) + r.shift < 97 ∨
    122 < (r.first : Int) + r.shift ∨ (r.first = 65 ∧ r.last = 90 ∧ r.shift = 32) ∨
      (r.first = 8490 ∧ r.last = 8490 ∧ r.shift = -8383) := by
  decide +kernel

/-- Whether a character is a small letter of ASCII that no sign beyond ASCII has as its own. -/
def isOwnSmall (c : Char) : Bool :=
  c.isLower && c != 'k'

theorem ownLower_of_isOwnSmall {c : Char} (h : ∀ d ∈ ownLower c, isOwnSmall d = true) :
    ownLower c = [c.toLower] := by
  have himage := h _ (List.mem_singleton_self _)
  rw [isOwnSmall, Bool.and_eq_true, bne_iff_ne] at himage
  obtain ⟨hlower, hkelvin⟩ := himage
  have hbounds := isLower_iff.mp hlower
  have hvalue := toNat_ofNat_of_ne (Nat.ne_of_gt (Nat.lt_of_lt_of_le (by decide) hbounds.1))
  rw [hvalue] at hbounds
  rw [ownLower]
  rcases @cases_of_runs lowerRuns c.toNat _ rfl with hsame | ⟨r, hr, hfirst, hlast, hmapped⟩
  · have hnot : ¬ c.isUpper = true := by
      rw [isUpper_iff]
      omega
    rw [← hsame, Char.ofNat_toNat, Char.toLower_eq_of_not_isUpper hnot]
  · rcases smalls_of_lowerRuns r hr with hlow | hhigh | ⟨hr, hr', hshift⟩ | ⟨hr, hr', hshift⟩
    · omega
    · omega
    · have hupper : c.isUpper = true := isUpper_iff.mpr (by omega)
      rw [Char.toLower_eq_of_isUpper hupper, ← hmapped, hshift]
      rfl
    · refine absurd (Char.toNat_inj.mp ?_) hkelvin
      rw [hvalue, ← hmapped, hshift, show c.toNat = 8490 by omega]
      rfl

theorem lowerChar_of_isOwnSmall {before after : Text} {c : Char}
    (h : ∀ d ∈ lowerChar before c after, isOwnSmall d = true) :
    lowerChar before c after = [c.toLower] := by
  by_cases hplain : IsPlain c
  · rw [lowerChar_of_isPlain hplain] at h ⊢
    exact ownLower_of_isOwnSmall h
  -- A sigma is never turned to a letter of ASCII, and the dotted capital i to one and a dot.
  · unfold lowerChar at h
    split at h
    · split at h
      · exact absurd (h _ (List.mem_singleton_self _)) (by decide)
      · exact absurd (h _ (List.mem_singleton_self _)) (by decide)
    split at h
    · exact absurd (h _ (List.mem_cons_of_mem _ (List.mem_singleton_self _))) (by decide)
    · exact absurd ⟨‹_›, ‹_›⟩ hplain

theorem lowerAfter_of_isOwnSmall {before t : Text}
    (h : ∀ d ∈ lowerAfter before t, isOwnSmall d = true) : lowerAfter before t = t.asciiLower := by
  induction t generalizing before with
  | nil => rfl
  | cons c rest ih =>
      obtain ⟨hfirst, hrest⟩ := List.forall_mem_append.mp h
      rw [lowerAfter, lowerChar_of_isOwnSmall hfirst, ih hrest]
      rfl

/-- A text has a word of such letters as its lower case if and only if it is this word with some
letters as capitals of ASCII. -/
theorem lower_eq_iff {t w : Text} (hsmall : ∀ d ∈ w, isOwnSmall d = true) (hown : w.lower = w) :
    t.lower = w ↔ t.asciiLower = w := by
  constructor
  · rintro rfl
    exact (lowerAfter_of_isOwnSmall hsmall).symm
  · intro h
    rw [← lower_asciiLower, h, hown]

end Text

namespace Level

open Text

/-! ### The two readers -/

/-- The names by which the program knows a threshold. -/
def names : List Text :=
  thresholdNames.map Prod.fst

/-- The program takes a text as its threshold if and only if the text is spelled as one of the names,
letter by letter. -/
theorem threshold_isOk_iff (t : Text) : (threshold t).isOk = true ↔ t.map capital ∈ names := by
  have hcapitals : ∀ w ∈ names, w.all Char.isUpper = true := by decide
  have hapart : ∀ w ∈ names, ∀ e ∈ upperExpansions, ¬ e.2.map Char.ofNat <:+: w := by decide +kernel
  have hspelled : t.upper ∈ names ↔ t.map capital ∈ names := by
    constructor
    · intro h
      rwa [(upper_eq_iff (List.all_eq_true.mp (hcapitals _ h)) (hapart _ h)).mp rfl]
    · intro h
      rwa [(upper_eq_iff (List.all_eq_true.mp (hcapitals _ h)) (hapart _ h)).mpr rfl]
  rw [← hspelled, threshold]
  cases hfound : thresholdNames.lookup t.upper with
  | none =>
      refine iff_of_false Bool.false_ne_true fun hmem => ?_
      obtain ⟨⟨name, level⟩, hentry, rfl⟩ := List.mem_map.mp hmem
      exact absurd (List.lookup_eq_none_iff.mp hfound _ hentry) (by simp)
  | some level =>
      obtain ⟨before, after, hsplit, -⟩ := List.lookup_eq_some_iff.mp hfound
      refine iff_of_true rfl (List.mem_map.mpr ⟨(t.upper, level), ?_, rfl⟩)
      rw [hsplit]
      exact List.mem_append_right _ List.mem_cons_self

theorem checkServer_isOk_iff (t : Text) :
    (checkServer t).isOk = true ↔ t.asciiLower ∈ serverNames := by
  have hsmall : ∀ w ∈ serverNames, w.all isOwnSmall = true := by decide
  have hown : ∀ w ∈ serverNames, w.lower = w := by decide +kernel
  have hspelled : t.lower ∈ serverNames ↔ t.asciiLower ∈ serverNames := by
    constructor
    · intro h
      rwa [(lower_eq_iff (List.all_eq_true.mp (hsmall _ h)) (hown _ h)).mp rfl]
    · intro h
      rwa [(lower_eq_iff (List.all_eq_true.mp (hsmall _ h)) (hown _ h)).mpr rfl]
  rw [← hspelled, checkServer]
  split
  next h => exact iff_of_true rfl (List.contains_iff_mem.mp h)
  next h => exact iff_of_false Bool.false_ne_true fun hmem => h (List.contains_iff_mem.mpr hmem)

/-- The names that one of the readers knows and the other does not. -/
def oneSidedNames : List Text :=
  ["warn", "fatal", "notset", "trace"].map String.toList

/-- That the readers of a level are not of one mind about it. -/
def Disputed (t : Text) : Prop :=
  t.asciiLower ∈ oneSidedNames ∨ t.map capital ∈ names ∧ ('ı' ∈ t ∨ 'ſ' ∈ t)

/-- Without the two letters beyond ASCII, a text is spelled as a name of capitals if and only if it is
this name but for capitals. -/
theorem map_capital_mem_names_iff {t : Text} (hdotless : 'ı' ∉ t) (hlong : 'ſ' ∉ t) :
    t.map capital ∈ names ↔ t.asciiLower ∈ names.map asciiLower := by
  have hcapital : t.map capital = t.map Char.toUpper := by
    refine List.map_congr_left fun c hc => ?_
    rw [capital, if_neg, if_neg]
    · rintro rfl
      exact hlong hc
    · rintro rfl
      exact hdotless hc
  have hlower : ∀ t : Text, asciiLower (t.map Char.toUpper) = t.asciiLower := fun t => by
    rw [asciiLower, asciiLower, List.map_map]
    exact List.map_congr_left fun c _ => Char.toLower_toUpper_eq_toLower c
  have hupper : ∀ t : Text, t.asciiLower.map Char.toUpper = t.map Char.toUpper := fun t => by
    rw [asciiLower, List.map_map]
    exact List.map_congr_left fun c _ => Char.toUpper_toLower_eq_toUpper c
  have hnames : ∀ w ∈ names, w.map Char.toUpper = w := by decide
  rw [hcapital, List.mem_map]
  constructor
  · intro h
    exact ⟨_, h, hlower t⟩
  · rintro ⟨w, hw, hsame⟩
    rwa [← hupper t, ← hsame, hupper w, hnames w hw]

/-- The readers agree about a text exactly if it is not disputed. -/
theorem agree_iff (t : Text) :
    ((threshold t).isOk = true ↔ (checkServer t).isOk = true) ↔ ¬ Disputed t := by
  rw [threshold_isOk_iff, checkServer_isOk_iff, Disputed]
  by_cases hforeign : 'ı' ∈ t ∨ 'ſ' ∈ t
  · -- A letter beyond ASCII stays in the text, and neither the server's names nor the others hold one.
    have hheld : ∀ names : List Text, names.all HostName.isAscii = true → t.asciiLower ∉ names := by
      intro names hascii hmem
      have hplain := List.all_eq_true.mp (List.all_eq_true.mp hascii _ hmem)
      rcases hforeign with hc | hc
      · exact absurd (hplain _ (List.mem_map_of_mem hc)) (by decide)
      · exact absurd (hplain _ (List.mem_map_of_mem hc)) (by decide)
    have hserver : t.asciiLower ∉ serverNames := hheld _ (by decide)
    have hsided : t.asciiLower ∉ oneSidedNames := hheld _ (by decide)
    simp only [hserver, hsided, hforeign, false_or, and_true, iff_false]
  · obtain ⟨hdotless, hlong⟩ := not_or.mp hforeign
    rw [map_capital_mem_names_iff hdotless hlong]
    simp only [hforeign, and_false, or_false]
    generalize t.asciiLower = u
    constructor
    · intro h hsided
      exact (by decide : ∀ u ∈ oneSidedNames, ¬ (u ∈ names.map asciiLower ↔ u ∈ serverNames)) u hsided h
    · intro hsided
      have hnames : ∀ u ∈ names.map asciiLower, u ∈ oneSidedNames ∨ u ∈ serverNames := by decide
      have hserver : ∀ u ∈ serverNames, u ∈ oneSidedNames ∨ u ∈ names.map asciiLower := by decide
      exact ⟨fun h => (hnames u h).resolve_left hsided, fun h => (hserver u h).resolve_left hsided⟩

end Level

/-! ### Loading and starting -/

/-- Once there are settings and a place for the site, it is for the level to decide whether the program
can be loaded. -/
theorem Program.load_isOk_iff {surroundings : Surroundings} {standard s : Settings}
    (hload : Settings.load surroundings standard [] = .ok s)
    (hmount : (Mount.ofPrefix s.urlPrefix).isOk = true) :
    (load surroundings standard).isOk = true ↔ (Level.threshold s.logLevel).isOk = true := by
  obtain ⟨mount, hplace⟩ := exists_of_isOk hmount
  simp only [load, hload, App.create, hplace, Except.map]
  cases Level.threshold s.logLevel with
  | error name => exact Iff.rfl
  | ok threshold => exact Iff.rfl

/-- A start that gets its listener is ended by the level if and only if the server does not know
it. -/
theorem Server.start_unknownLevel_iff {s : Settings} {v : Vantage} {n : Network}
    (hmount : (Mount.ofPrefix s.urlPrefix).isOk = true) (hcheck : s.check v = .ok ())
    (hbind : (n.bind s.host s.port).isOk = true) :
    (∀ launch name, start s v n = .ok launch → launch.progress ≠ .raised (.unknownLevel name)) ↔
      (Level.checkServer s.logLevel).isOk = true := by
  obtain ⟨mount, hplace⟩ := exists_of_isOk hmount
  obtain ⟨⟨address, bound⟩, hbound⟩ := exists_of_isOk hbind
  let server : Server := ⟨s, ⟨s, mount, false⟩, none, false⟩
  let socket : Socket := ⟨address, bound, true, true, true, false⟩
  have hresult : (n.listen s.host s.port).result = .ok socket := by
    rw [Network.listen_result, hbound]
  have hstart : start s v n = .ok ((server.serveOn socket).finish [] (.ok ())) := by
    rw [start_of_mount hplace, launch, launchWith_of_socket hcheck hresult]
  -- What a server that is stopped at once has served is nothing.
  have hleft := @stopAfter_serveOn v ⟨[], [], []⟩ [] [] server socket
  have hstop : (server.serveOn socket).stopAfter v ⟨[], [], []⟩ [] [] =
      (server.serveOn socket).finish [] (.ok ()) := rfl
  simp only [hstop] at hleft
  obtain ⟨-, -, hknown, hunknown⟩ := hleft
  rw [hstart, Level.checkServer]
  split
  next hcontained =>
    refine iff_of_true (fun launch name hlaunch => ?_) rfl
    cases hlaunch
    rw [hknown (List.contains_iff_mem.mp hcontained)]
    exact Progress.noConfusion
  next hcontained =>
    refine iff_of_false (fun hnever => ?_) Bool.false_ne_true
    exact hnever _ _ rfl (hunknown fun hmem => hcontained (List.contains_iff_mem.mpr hmem)).1

/-- The program and the server take the same texts as levels, with these exceptions alone: the server
does not know `warn`, `fatal` and `notset`, the program does not know `trace`, and in the names that it
knows the program takes a dotless i or a long s for the letter. What each of them takes is told, too,
for any surroundings with settings, and for any settings with the same level whose server gets as far
as its level. -/
theorem Level.taken_alike_iff {surroundings : Surroundings} {standard s t : Settings} {v : Vantage}
    {n : Network} (hload : Settings.load surroundings standard [] = .ok s)
    (hplace : (Mount.ofPrefix s.urlPrefix).isOk = true) (hlevel : t.logLevel = s.logLevel)
    (hmount : (Mount.ofPrefix t.urlPrefix).isOk = true) (hcheck : t.check v = .ok ())
    (hbind : (n.bind t.host t.port).isOk = true) :
    let loads := (Program.load surroundings standard).isOk = true
    let starts := ∀ launch name, Server.start t v n = .ok launch →
      launch.progress ≠ .raised (.unknownLevel name)
    ((loads ↔ starts) ↔ ¬ Disputed s.logLevel) ∧
      (loads ↔ s.logLevel.map Text.capital ∈ names) ∧
      (starts ↔ s.logLevel.asciiLower ∈ serverNames) := by
  intro loads starts
  have hloads : loads ↔ (threshold s.logLevel).isOk = true := Program.load_isOk_iff hload hplace
  have hstarts : starts ↔ (checkServer s.logLevel).isOk = true :=
    hlevel ▸ Server.start_unknownLevel_iff hmount hcheck hbind
  rw [hloads, hstarts]
  exact ⟨agree_iff _, threshold_isOk_iff _, checkServer_isOk_iff _⟩

/-! ### A level that only the program knows -/

namespace WarnLevel

def vantage : Vantage :=
  ⟨⟨[(["pub".toList], ⟨.directory, 0o755⟩)]⟩, .superuser, []⟩

def network : Network :=
  ⟨fun _ => true, [], 32768, [], true⟩

def surroundings : Surroundings :=
  { vantage
    environment := [("STATIC_SERVER_LOG_LEVEL".toList, "warn".toList)]
    homes := ⟨[], []⟩ }

def settings : Settings :=
  { Settings.standard "pub".toList with logLevel := "warn".toList }

/-- The program can be loaded, but a start that has its listener is ended by the level. -/
theorem taken_alike_iff_warn :
    (Program.load surroundings (.standard "pub".toList)).isOk = true ∧
      ¬ ∀ launch name, Server.start settings vantage network = .ok launch →
        launch.progress ≠ .raised (.unknownLevel name) := by
  have hload : Settings.load surroundings (.standard "pub".toList) [] = .ok settings :=
    ok_of_toOption (by decide +kernel)
  obtain ⟨-, hloads, hstarts⟩ := Level.taken_alike_iff hload (by decide +kernel) rfl
    (by decide +kernel) (by decide +kernel : settings.check vantage = .ok ())
    (by decide +kernel : (network.bind settings.host settings.port).isOk = true)
  exact ⟨hloads.mpr (by decide +kernel), fun h => absurd (hstarts.mp h) (by decide +kernel)⟩

end WarnLevel

end StaticSite
