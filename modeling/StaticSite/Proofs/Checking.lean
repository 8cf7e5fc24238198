import StaticSite.Proofs.Following
import StaticSite.Settings.Unchecked

/-! Checking settings. Three things are asked of them: that the path of the directory leads, through its
links, to a directory which the server may read and search, that the port is one, and that the site
stands below a slash. The check passes exactly if all three hold; else it tells each that does not, once
and in this order. Where the system refuses to look at the directory it tells nothing but that, and where
the port has more digits than are written, nothing but this. -/

namespace StaticSite

/-- A look at a path that is refused for another reason than that nothing is there. -/
def Vantage.Refuses (v : Vantage) (p : Path) (e : SystemError) : Prop :=
  v.stat p = .error (.system e) ∧ e ∉ [.notFound, .notDirectory, .tooManyLinks]

/-- The integer that a value is; a truth value is zero or one. -/
def Value.integer? : Value → Option Int
  | .int n => some n
  | .bool b => some (if b then 1 else 0)
  | _ => none

namespace Settings

/-- Settings that can be served. -/
structure Servable (v : Vantage) (root : Text) (port : Int) (urlPrefix : Text) : Prop where
  root : ∃ e, v.LeadsTo (Path.ofText root) e ∧ e.node = .directory ∧
    e.allows v.caller readBit = true ∧ e.allows v.caller searchBit = true
  port : 0 ≤ port ∧ port ≤ 65535
  urlPrefix : urlPrefix.head? = some '/'

/-- What is told of the directory: the first thing that is wrong with it. -/
inductive RootFault (v : Vantage) (root : Text) : Text → Prop
  | missing (h : ∀ e, ¬ v.LeadsTo (Path.ofText root) e) :
      RootFault v root ("root directory ".toList ++ root ++ " does not exist".toList)
  | notDirectory (e : Entry) (there : v.LeadsTo (Path.ofText root) e) (h : e.node ≠ .directory) :
      RootFault v root ("root directory ".toList ++ root ++ " is not a directory".toList)
  | notReadable (e : Entry) (there : v.LeadsTo (Path.ofText root) e) (directory : e.node = .directory)
      (h : e.allows v.caller readBit = false ∨ e.allows v.caller searchBit = false) :
      RootFault v root ("root directory ".toList ++ root ++ " is not readable".toList)

/-- What is told of the port. -/
inductive PortFault (port : Int) : Text → Prop
  | outOfRange (h : port < 0 ∨ 65535 < port) :
      PortFault port ("port ".toList ++ Text.ofInt port ++ " is out of range".toList)

/-- What is told of the place of the site. -/
inductive PrefixFault (urlPrefix : Text) : Text → Prop
  | withoutSlash (h : urlPrefix.head? ≠ some '/') :
      PrefixFault urlPrefix
        ("url prefix ".toList ++ urlPrefix.quoted ++ " must start with '/'".toList)

/-- A fault is told once, and if there is none nothing is told. -/
def Tells (fault : Text → Prop) (told : List Text) : Prop :=
  (told = [] ∧ ∀ words, ¬ fault words) ∨ ∃ words, told = [words] ∧ fault words

/-- What a check comes to. -/
structure Checked (v : Vantage) (root : Text) (port : Int) (urlPrefix : Text)
    (result : Except CheckError Unit) : Prop where
  refused : ∀ e, v.Refuses (Path.ofText root) e → result = .error (.system e root)
  passed : (∀ e, ¬ v.Refuses (Path.ofText root) e) →
    (result = .ok () ↔ Servable v root port urlPrefix)
  failed : (∀ e, ¬ v.Refuses (Path.ofText root) e) → ¬ Servable v root port urlPrefix →
    port.natAbs < Number.tooGreat →
      ∃ problems ofRoot ofPort ofPrefix, result = .error (.problems problems) ∧
        Tells (RootFault v root) ofRoot ∧ Tells (PortFault port) ofPort ∧
        Tells (PrefixFault urlPrefix) ofPrefix ∧
        Problem.summary problems = "Configuration errors: ".toList ++
          Text.joinWith ", ".toList (ofRoot ++ ofPort ++ ofPrefix)
  untold : (∀ e, ¬ v.Refuses (Path.ofText root) e) → Number.tooGreat ≤ port.natAbs →
    ∃ problems, result = .error (.problems problems) ∧
      Problem.summary problems =
        ("Exceeds the limit (4300 digits) for integer string conversion; " ++
          "use sys.set_int_max_str_digits() to increase the limit").toList

/-- The problems that are found come to words, which tell a fault once if there is one. -/
def Finds (fault : Text → Prop) (found : List Problem) : Prop :=
  ∃ told, found.mapM Problem.message? = some told ∧ Tells fault told

/-! ### One thing at a time -/

variable {v : Vantage} {root urlPrefix : Text} {port : Int}

theorem finds_nil {fault : Text → Prop} (h : ∀ words, ¬ fault words) : Finds fault [] :=
  ⟨[], rfl, Or.inl ⟨rfl, h⟩⟩

theorem finds_singleton {fault : Text → Prop} {problem : Problem} {words : Text}
    (hmessage : problem.message? = some words) (h : fault words) : Finds fault [problem] := by
  refine ⟨[words], ?_, Or.inr ⟨words, rfl, h⟩⟩
  rw [List.mapM_cons, hmessage]
  rfl

theorem meansMissing_iff {e : SystemError} :
    e.meansMissing = true ↔ e ∈ [.notFound, .notDirectory, .tooManyLinks] := by
  simp [SystemError.meansMissing, or_assoc]

/-- A path that leads nowhere is told to be missing, unless the look at it is refused. -/
theorem rootProblem_of_nowhere (hnowhere : ∀ e, ¬ v.LeadsTo (Path.ofText root) e) :
    (∃ e, v.Refuses (Path.ofText root) e ∧ rootProblem v root = .error (.system e root)) ∨
      (∀ e, ¬ v.Refuses (Path.ofText root) e) ∧ rootProblem v root = .ok [.rootMissing root] := by
  unfold rootProblem
  cases hstat : v.stat (Path.ofText root) with
  | ok e => exact absurd (Vantage.stat_eq_ok_iff.mp hstat) (hnowhere e)
  | error e =>
      cases e with
      | embeddedNull =>
          refine Or.inr ⟨?_, rfl⟩
          rintro e ⟨he, -⟩
          rw [hstat] at he
          cases he
      | system e =>
          by_cases hmeans : e.meansMissing = true
          · refine Or.inr ⟨?_, if_pos hmeans⟩
            rintro e' ⟨he', hother⟩
            rw [hstat] at he'
            cases he'
            exact hother (meansMissing_iff.mp hmeans)
          · exact Or.inl ⟨e, ⟨hstat, fun hmem => hmeans (meansMissing_iff.mpr hmem)⟩, if_neg hmeans⟩

/-- What is told of a path holds of the one entry to which it leads: if that is a directory that can be
read, it cannot be searched. -/
theorem RootFault.of_leadsTo {e : Entry} {words : Text} (hfault : RootFault v root words)
    (hthere : v.LeadsTo (Path.ofText root) e) :
    e.node = .directory → e.allows v.caller readBit = true → e.allows v.caller searchBit = false := by
  intro hdir hread
  cases hfault with
  | missing h => exact absurd hthere (h e)
  | notDirectory e' he' h => exact absurd (hthere.unique he' ▸ hdir) h
  | notReadable e' he' _ h =>
      rw [← hthere.unique he', hread] at h
      exact h.resolve_left (by simp)

/-- Of an entry to which a path leads nothing is told exactly if it is a directory that the server may
read and search. -/
theorem rootProblem_of_leadsTo {e : Entry} (hthere : v.LeadsTo (Path.ofText root) e) :
    ∃ problems, rootProblem v root = .ok problems ∧ Finds (RootFault v root) problems ∧
      (problems = [] ↔ e.node = .directory ∧ e.allows v.caller readBit = true ∧
        e.allows v.caller searchBit = true) := by
  unfold rootProblem
  rw [Vantage.stat_eq_ok_iff.mpr hthere]
  by_cases hdir : e.node = .directory
  · by_cases hallowed : e.allows v.caller readBit = true ∧ e.allows v.caller searchBit = true
    · refine ⟨[], ?_, finds_nil fun words hfault => ?_, ?_⟩
      · simp [Entry.isDirectory, hdir, hallowed]
      · have hdenied := hfault.of_leadsTo hthere hdir hallowed.1
        simp [hallowed] at hdenied
      · simp [hdir, hallowed]
    · have hdenied : e.allows v.caller readBit = false ∨ e.allows v.caller searchBit = false := by
        rw [Decidable.not_and_iff_or_not] at hallowed
        simpa using hallowed
      refine ⟨[.rootNotReadable root], ?_,
        finds_singleton rfl (.notReadable e hthere hdir hdenied), ?_⟩
      · simp only [Entry.isDirectory, hdir, decide_true, Bool.not_true, Bool.false_eq_true, if_false]
        rw [if_neg (by simpa using hallowed)]
      · simp [hallowed]
  · refine ⟨[.rootNotDirectory root], ?_, finds_singleton rfl (.notDirectory e hthere hdir), ?_⟩
    · simp [Entry.isDirectory, hdir]
    · simp [hdir]

/-- The look at the directory is refused, or something is told of it, or all is well with it. -/
theorem rootProblem_cases (v : Vantage) (root : Text) :
    (∃ e, v.Refuses (Path.ofText root) e ∧ rootProblem v root = .error (.system e root)) ∨
      (∀ e, ¬ v.Refuses (Path.ofText root) e) ∧ ∃ problems, rootProblem v root = .ok problems ∧
        Finds (RootFault v root) problems ∧
        (problems = [] ↔ ∃ e, v.LeadsTo (Path.ofText root) e ∧ e.node = .directory ∧
          e.allows v.caller readBit = true ∧ e.allows v.caller searchBit = true) := by
  by_cases h : ∃ e, v.LeadsTo (Path.ofText root) e
  · obtain ⟨e, hthere⟩ := h
    obtain ⟨problems, heq, htells, hnil⟩ := rootProblem_of_leadsTo hthere
    refine Or.inr ⟨?_, problems, heq, htells, ?_⟩
    · rintro e' ⟨he', -⟩
      rw [Vantage.stat_eq_ok_iff.mpr hthere] at he'
      cases he'
    · rw [hnil]
      constructor
      · intro hopen
        exact ⟨e, hthere, hopen⟩
      · rintro ⟨e', he', hopen⟩
        rw [hthere.unique he']
        exact hopen
  · have hnowhere : ∀ e, ¬ v.LeadsTo (Path.ofText root) e := fun e he => h ⟨e, he⟩
    rcases rootProblem_of_nowhere hnowhere with hrefuses | ⟨hlooked, heq⟩
    · exact Or.inl hrefuses
    · refine Or.inr ⟨hlooked, _, heq, finds_singleton rfl (.missing hnowhere), ?_⟩
      refine iff_of_false (List.cons_ne_nil _ _) ?_
      rintro ⟨e, he, -⟩
      exact hnowhere e he

/-- What has too many digits is no port. -/
theorem tooGreat_gt : 99999 < Number.tooGreat := by
  have hpow : ∀ n, 5 ≤ n → 99999 < Nat.pow 10 n := fun n hn =>
    Nat.lt_of_lt_of_le (by decide : 99999 < 10 ^ 5) (Nat.pow_le_pow_right (by decide) hn)
  unfold Number.tooGreat
  exact hpow _ (by decide)

theorem portProblem_eq_nil_iff : portProblem port = [] ↔ 0 ≤ port ∧ port ≤ 65535 := by
  unfold portProblem
  split
  · exact iff_of_true rfl ‹_›
  · exact iff_of_false (List.cons_ne_nil _ _) ‹_›

theorem portProblem_finds (hshort : port.natAbs < Number.tooGreat) :
    Finds (PortFault port) (portProblem port) := by
  unfold portProblem
  by_cases h : 0 ≤ port ∧ port ≤ maxPort
  · rw [if_pos h]
    refine finds_nil ?_
    rintro words ⟨hout⟩
    rw [maxPort] at h
    omega
  · rw [if_neg h]
    have hmessage : (Problem.portOutOfRange port).message? =
        some ("port ".toList ++ Text.ofInt port ++ " is out of range".toList) := by
      rw [Problem.message?, Number.write?, if_pos hshort]
      rfl
    refine finds_singleton hmessage (.outOfRange ?_)
    rw [maxPort] at h
    omega

/-- A port with too many digits is none, and this cannot be told. -/
theorem portProblem_of_long (hlong : Number.tooGreat ≤ port.natAbs) :
    portProblem port = [.portOutOfRange port] ∧ (Problem.portOutOfRange port).message? = none := by
  have hports := tooGreat_gt
  constructor
  · rw [portProblem, if_neg]
    rw [maxPort]
    omega
  · rw [Problem.message?, Number.write?, if_neg (Nat.not_lt.mpr hlong)]
    rfl

theorem prefixProblem_eq_nil_iff : prefixProblem urlPrefix = [] ↔ urlPrefix.head? = some '/' := by
  unfold prefixProblem
  split
  · exact iff_of_true rfl rfl
  · rename_i hother
    refine iff_of_false (List.cons_ne_nil _ _) fun hhead => ?_
    obtain ⟨rest, rfl⟩ := List.head?_eq_some_iff.mp hhead
    exact hother rest rfl

theorem prefixProblem_finds (urlPrefix : Text) :
    Finds (PrefixFault urlPrefix) (prefixProblem urlPrefix) := by
  by_cases h : urlPrefix.head? = some '/'
  · rw [prefixProblem_eq_nil_iff.mpr h]
    refine finds_nil ?_
    rintro words ⟨hnot⟩
    exact hnot h
  · have hproblem : prefixProblem urlPrefix = [.prefixWithoutSlash urlPrefix] := by
      unfold prefixProblem
      split
      · exact absurd rfl h
      · rfl
    rw [hproblem]
    exact finds_singleton rfl (.withoutSlash h)

/-! ### All together -/

/-- What is said of all problems together. -/
def verdict (problems : List Problem) : Except CheckError Unit :=
  match problems with
  | [] => .ok ()
  | problems => .error (.problems problems)

theorem verdict_eq_ok_iff {problems : List Problem} : verdict problems = .ok () ↔ problems = [] := by
  cases problems <;> simp [verdict]

theorem verdict_of_ne_nil {problems : List Problem} (h : problems ≠ []) :
    verdict problems = .error (.problems problems) := by
  cases problems with
  | nil => exact absurd rfl h
  | cons problem rest => rfl

/-- A check of the three things. -/
def checkOf (v : Vantage) (root : Text) (port : Int) (urlPrefix : Text) : Except CheckError Unit :=
  (rootProblem v root).bind fun found =>
    verdict (found ++ portProblem port ++ prefixProblem urlPrefix)

theorem check_eq_checkOf (s : Settings) (v : Vantage) :
    s.check v = checkOf v (Path.plain s.rootDir) s.port s.urlPrefix := by
  rw [check, checkOf]
  cases rootProblem v (Path.plain s.rootDir) <;> rfl

/-- What is found of the three things comes to what is told of them. -/
theorem summary_of_finds {ofRoot ofPort ofPrefix : Text → Prop} {root port place : List Problem}
    (hroot : Finds ofRoot root) (hport : Finds ofPort port) (hplace : Finds ofPrefix place) :
    ∃ r p x, Tells ofRoot r ∧ Tells ofPort p ∧ Tells ofPrefix x ∧
      Problem.summary (root ++ port ++ place) =
        "Configuration errors: ".toList ++ Text.joinWith ", ".toList (r ++ p ++ x) := by
  obtain ⟨r, hr, hofRoot⟩ := hroot
  obtain ⟨p, hp, hofPort⟩ := hport
  obtain ⟨x, hx, hofPrefix⟩ := hplace
  refine ⟨r, p, x, hofRoot, hofPort, hofPrefix, ?_⟩
  have htold : (root ++ port ++ place).mapM Problem.message? = some (r ++ p ++ x) := by
    simp only [List.mapM_append, hr, hp, hx, Option.pure_def, Option.bind_eq_bind, Option.bind_some]
  rw [Problem.summary, htold]

/-- One problem that cannot be told leaves nothing else to be told. -/
theorem summary_of_untold {found : List Problem} {problem : Problem} (hmem : problem ∈ found)
    (hmessage : problem.message? = none) : Problem.summary found = Number.tooLongToWrite := by
  have hnone : found.mapM Problem.message? = none := by
    obtain ⟨before, after, rfl⟩ := List.append_of_mem hmem
    rw [List.mapM_append, List.mapM_cons, hmessage]
    cases before.mapM Problem.message? <;> rfl
  rw [Problem.summary, hnone]

/-- A check is as it should be if it is refused with the look at the directory, and is as it should be
where it is not. -/
theorem Checked.of_looked {result : List Problem → Except CheckError Unit}
    (h : ∀ found, rootProblem v root = .ok found → (∀ e, ¬ v.Refuses (Path.ofText root) e) →
      Finds (RootFault v root) found →
      (found = [] ↔ ∃ e, v.LeadsTo (Path.ofText root) e ∧ e.node = .directory ∧
          e.allows v.caller readBit = true ∧ e.allows v.caller searchBit = true) →
      Checked v root port urlPrefix (result found)) :
    Checked v root port urlPrefix ((rootProblem v root).bind result) := by
  rcases rootProblem_cases v root with ⟨e, hrefuses, heq⟩ | ⟨hlooked, found, heq, hofRoot, hroot⟩
  · rw [heq]
    constructor
    case refused =>
      intro e' hrefuses'
      cases hrefuses.1.symm.trans hrefuses'.1
      rfl
    all_goals
      intro hlooked
      exact absurd hrefuses (hlooked e)
  · rw [heq]
    exact h found heq hlooked hofRoot hroot

theorem checked_checkOf (v : Vantage) (root : Text) (port : Int) (urlPrefix : Text) :
    Checked v root port urlPrefix (checkOf v root port urlPrefix) := by
  refine .of_looked fun found _ hlooked hofRoot hroot => ?_
  have hservable : found ++ portProblem port ++ prefixProblem urlPrefix = [] ↔
      Servable v root port urlPrefix := by
    rw [List.append_eq_nil_iff, List.append_eq_nil_iff, hroot, portProblem_eq_nil_iff,
      prefixProblem_eq_nil_iff]
    constructor
    · rintro ⟨⟨h, h'⟩, h''⟩
      exact ⟨h, h', h''⟩
    · rintro ⟨h, h', h''⟩
      exact ⟨⟨h, h'⟩, h''⟩
  constructor
  case refused =>
    intro e hrefuses
    exact absurd hrefuses (hlooked e)
  case passed =>
    intro _
    rw [verdict_eq_ok_iff, hservable]
  case failed =>
    intro _ hnot hshort
    rw [← hservable] at hnot
    obtain ⟨r, p, x, hr, hp, hx, hsummary⟩ :=
      summary_of_finds hofRoot (portProblem_finds hshort) (prefixProblem_finds urlPrefix)
    exact ⟨_, r, p, x, verdict_of_ne_nil hnot, hr, hp, hx, hsummary⟩
  case untold =>
    intro _ hlong
    obtain ⟨hfound, hmessage⟩ := portProblem_of_long hlong
    have hmem : .portOutOfRange port ∈ found ++ portProblem port ++ prefixProblem urlPrefix := by
      simp [hfound]
    exact ⟨_, verdict_of_ne_nil (List.ne_nil_of_mem hmem), summary_of_untold hmem hmessage⟩

/-- A check that ends with a port that cannot be told comes to the same. -/
theorem checked_of_long (hlong : Number.tooGreat ≤ port.natAbs) :
    Checked v root port urlPrefix
      ((rootProblem v root).bind fun _ => .error (.problems (portProblem port))) := by
  obtain ⟨hfound, hmessage⟩ := portProblem_of_long hlong
  refine .of_looked fun _ _ hlooked _ _ => ?_
  constructor
  case refused =>
    intro e hrefuses
    exact absurd hrefuses (hlooked e)
  case passed =>
    intro _
    refine iff_of_false nofun fun h => ?_
    rw [portProblem_eq_nil_iff.mpr h.port] at hfound
    cases hfound
  case failed =>
    intro _ _ hshort
    exact absurd hlong (Nat.not_le.mpr hshort)
  case untold =>
    intro _ _
    rw [hfound]
    exact ⟨_, rfl, summary_of_untold List.mem_cons_self hmessage⟩

/-- What an unchecked copy tells of an integer as its port. -/
theorem unchecked_portProblem {value : Value} (h : value.integer? = some port) :
    Unchecked.portProblem value =
      if port.natAbs < Number.tooGreat then .ok (portProblem port)
      else .error (.check (.problems (portProblem port))) := by
  cases value with
  | int n =>
      cases h
      rw [Unchecked.portProblem]
      by_cases hshort : port.natAbs < Number.tooGreat
      · have hall : (portProblem port).all (·.message?.isSome) = true := by
          rw [portProblem]
          split
          · rfl
          · simp [Problem.message?, Number.write?, hshort]
        rw [if_pos hshort, if_pos hall]
      · obtain ⟨hfound, hmessage⟩ := portProblem_of_long (Nat.not_lt.mp hshort)
        rw [if_neg hshort, hfound, if_neg]
        simp [hmessage]
  | bool b =>
      have hdigits := tooGreat_gt
      have hport : port = 0 ∨ port = 1 := by
        cases b <;> cases h <;> simp
      have hshort : port.natAbs < Number.tooGreat := by omega
      rw [if_pos hshort, portProblem_eq_nil_iff.mpr (by omega)]
      rfl
  | _ => cases h

/-- Settings, and copies of settings in which the directory and the place are texts and the port is an
integer, are checked by what their path leads to, their port and their place alone: the check passes
exactly if all is well, and else tells each fault once, in order, or that the port has too many digits. -/
theorem check_reports (v : Vantage) :
    (∀ s : Settings, Checked v (Path.plain s.rootDir) s.port s.urlPrefix (s.check v)) ∧
      ∀ (u : Unchecked) (root urlPrefix : Text) (port : Int), u.rootDir = .text root →
        u.port.integer? = some port → u.urlPrefix = .text urlPrefix →
          ∃ result, u.check v = result.mapError .check ∧
            Checked v (Path.plain root) port urlPrefix result := by
  constructor
  · intro s
    rw [check_eq_checkOf]
    exact checked_checkOf v (Path.plain s.rootDir) s.port s.urlPrefix
  · intro u root urlPrefix port hroot hport hprefix
    rw [Unchecked.check, unchecked_portProblem hport, hroot, hprefix]
    simp only [Unchecked.rootProblem, Unchecked.prefixProblem]
    by_cases hshort : port.natAbs < Number.tooGreat
    · refine ⟨_, ?_, checked_checkOf v (Path.plain root) port urlPrefix⟩
      rw [checkOf, if_pos hshort]
      cases rootProblem v (Path.plain root) with
      | error e => rfl
      | ok found =>
          simp only [bind, Except.bind, mapError_ok]
          cases found ++ portProblem port ++ prefixProblem urlPrefix <;> rfl
    · refine ⟨_, ?_, checked_of_long (Nat.not_lt.mp hshort)⟩
      rw [if_neg hshort]
      cases rootProblem v (Path.plain root) <;> rfl

end Settings

/-! ### A link that leads to itself -/

namespace LoopingRoot

def vantage : Vantage :=
  ⟨⟨[(["loop".toList], ⟨.link "loop".toList, 0o777⟩)]⟩, .ordinary, []⟩

/-- A copy of settings in which nothing is right. -/
def copy : Unchecked :=
  (Settings.standard "pub".toList).update
    [("root_dir".toList, .text "loop".toList), ("port".toList, .int 65536),
      ("url_prefix".toList, .text "assets".toList)]

theorem stat_loop :
    vantage.stat (Path.ofText "loop".toList) = .error (.system .tooManyLinks) :=
  rfl

theorem not_leadsTo (e : Entry) : ¬ vantage.LeadsTo (Path.ofText "loop".toList) e := by
  intro h
  rw [← Vantage.stat_eq_ok_iff, stat_loop] at h
  cases h

/-- All three faults are told, in order. -/
theorem check_reports_copy :
    copy.rootDir = .text "loop".toList ∧ copy.port.integer? = some 65536 ∧
      copy.urlPrefix = .text "assets".toList ∧
      ∃ problems, copy.check vantage = .error (.check (.problems problems)) ∧
        Problem.summary problems = ("Configuration errors: root directory loop does not exist, " ++
          "port 65536 is out of range, url prefix 'assets' must start with '/'").toList := by
  refine ⟨rfl, rfl, rfl, ?_⟩
  obtain ⟨result, hresult, hchecked⟩ := (Settings.check_reports vantage).2 copy "loop".toList
    "assets".toList 65536 rfl rfl rfl
  have hplain : Path.plain "loop".toList = "loop".toList := by decide
  rw [hplain] at hchecked
  have hlooked : ∀ e, ¬ vantage.Refuses (Path.ofText "loop".toList) e := by
    rintro e ⟨he, hother⟩
    rw [stat_loop] at he
    cases he
    exact hother (by decide)
  have hshort : (65536 : Int).natAbs < Number.tooGreat :=
    Nat.lt_trans (by decide) Settings.tooGreat_gt
  obtain ⟨problems, ofRoot, ofPort, ofPrefix, rfl, hroot, hport, hprefix, hsummary⟩ :=
    hchecked.failed hlooked (fun h => absurd h.urlPrefix (by decide)) hshort
  have hofRoot : ofRoot = ["root directory loop does not exist".toList] := by
    rcases hroot with ⟨-, hnone⟩ | ⟨words, rfl, hfault⟩
    · exact absurd (.missing not_leadsTo) (hnone _)
    · cases hfault with
      | missing => rfl
      | notDirectory e he => exact absurd he (not_leadsTo e)
      | notReadable e he => exact absurd he (not_leadsTo e)
  have hofPort : ofPort = ["port 65536 is out of range".toList] := by
    rcases hport with ⟨-, hnone⟩ | ⟨words, rfl, hfault⟩
    · exact absurd (.outOfRange (Or.inr (by decide))) (hnone _)
    · cases hfault
      rfl
  have hofPrefix : ofPrefix = ["url prefix 'assets' must start with '/'".toList] := by
    rcases hprefix with ⟨-, hnone⟩ | ⟨words, rfl, hfault⟩
    · exact absurd (.withoutSlash (by decide)) (hnone _)
    · cases hfault
      decide +kernel
  refine ⟨problems, hresult, ?_⟩
  rw [hsummary, hofRoot, hofPort, hofPrefix]
  decide +kernel

end LoopingRoot

/-! ### A port with too many digits -/

namespace LongPort

def vantage : Vantage :=
  ⟨⟨[(["pub".toList], ⟨.directory, 0o755⟩)]⟩, .superuser, []⟩

/-- The least port with more digits than are written. -/
def settings : Settings :=
  { Settings.standard "pub".toList with port := (Number.tooGreat : Int) }

theorem port_natAbs : settings.port.natAbs = Number.tooGreat :=
  Int.natAbs_natCast Number.tooGreat

theorem not_refuses (e : SystemError) : ¬ vantage.Refuses (Path.ofText settings.rootDir) e := by
  rintro ⟨he, -⟩
  have hstat : vantage.stat (Path.ofText settings.rootDir) = .ok ⟨.directory, 0o755⟩ := rfl
  rw [hstat] at he
  cases he

/-- Although the directory can be looked at, the check does not tell what is wrong with the port. -/
theorem not_reports_port :
    (∀ e, ¬ vantage.Refuses (Path.ofText settings.rootDir) e) ∧
      ∃ problems, settings.check vantage = .error (.problems problems) ∧
        ∀ told : List Text, Problem.summary problems ≠
          "Configuration errors: ".toList ++ Text.joinWith ", ".toList told := by
  have hchecked := Settings.checked_checkOf vantage settings.rootDir settings.port settings.urlPrefix
  have hplain : Path.plain settings.rootDir = settings.rootDir := by decide +kernel
  obtain ⟨problems, hproblems, hsummary⟩ := hchecked.untold not_refuses (Nat.le_of_eq port_natAbs.symm)
  refine ⟨not_refuses, problems, ?_, fun told heq => ?_⟩
  · rw [Settings.check_eq_checkOf, hplain, hproblems]
  · have hfirst : Number.tooLongToWrite.head? = some 'E' := by decide +kernel
    have hother : ("Configuration errors: ".toList ++ Text.joinWith ", ".toList told).head? =
        some 'C' := rfl
    rw [← heq, hsummary] at hother
    cases hfirst.symm.trans hother

end LongPort

end StaticSite
