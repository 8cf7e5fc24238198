import StaticSite.Proofs.Recording
import StaticSite.Proofs.WireText

/-! No request writes a line break into the log. What it brings comes into a line by three ways: its
method, the path of its URL and the text of a failure. A method has no breaks to begin with; a URL
drops them wherever they stand; and the texts of failures either quote what they are about, and so
escape the breaks in it, or tell of the directory of the site, which the settings name. -/

namespace StaticSite

namespace Text

/-- Whether a character ends a line. -/
def isBreak (c : Char) : Bool :=
  c == '\n' || c == '\r'

/-- A text without line breaks. -/
def OneLine (t : Text) : Prop :=
  ∀ c ∈ t, isBreak c = false

instance (t : Text) : Decidable t.OneLine :=
  decidable_of_iff (t.all (!isBreak ·) = true) (by simp [OneLine])

variable {s t : Text} {c mark : Char}

theorem oneLine_iff : t.OneLine ↔ '\n' ∉ t ∧ '\r' ∉ t := by
  constructor
  · intro h
    exact ⟨fun hfeed => absurd (h _ hfeed) (by decide), fun hreturn => absurd (h _ hreturn) (by decide)⟩
  · rintro ⟨hfeed, hreturn⟩ c hc
    simp only [isBreak, Bool.or_eq_false_iff, beq_eq_false_iff_ne]
    exact ⟨ne_of_mem_of_not_mem hc hfeed, ne_of_mem_of_not_mem hc hreturn⟩

theorem OneLine.nil : OneLine [] :=
  nofun

theorem OneLine.cons (hc : isBreak c = false) (ht : t.OneLine) : OneLine (c :: t) :=
  List.forall_mem_cons.mpr ⟨hc, ht⟩

theorem OneLine.append (hs : s.OneLine) (ht : t.OneLine) : (s ++ t).OneLine :=
  List.forall_mem_append.mpr ⟨hs, ht⟩

/-! ### Digits -/

theorem isBreak_digitChar {d : Nat} (h : d < 16) : isBreak d.digitChar = false := by
  have hall : ∀ d < 16, isBreak d.digitChar = false := by decide
  exact hall d h

theorem oneLine_toDigits {base : Nat} (hbase : 1 < base) (hknown : base ≤ 16) (n : Nat) :
    OneLine (Nat.toDigits base n) := by
  induction n using Nat.strongRecOn with
  | ind n ih =>
      by_cases hsmall : n < base
      · rw [Nat.toDigits_of_lt_base hsmall]
        exact .cons (isBreak_digitChar (by omega)) .nil
      · have hlast : n % base < base := Nat.mod_lt n (by omega)
        rw [Nat.toDigits_of_base_le hbase (by omega)]
        exact .append (ih _ (Nat.div_lt_self (by omega) hbase)) (.cons (isBreak_digitChar (by omega)) .nil)

theorem oneLine_ofNat (n : Nat) : (ofNat n).OneLine := by
  rw [ofNat]
  exact oneLine_toDigits (by decide) (by decide) n

theorem oneLine_ofInt (n : Int) : (ofInt n).OneLine := by
  cases n with
  | ofNat n => exact oneLine_ofNat n
  | negSucc n => exact .cons rfl (oneLine_ofNat _)

/-! ### Quoted texts -/

theorem oneLine_escapeNumber (n : Nat) : (escapeNumber n).OneLine := by
  have hdigits : ∀ width, (digitsIn 16 width n).OneLine := by
    intro width
    refine OneLine.append (fun c hc => ?_) (oneLine_toDigits (by decide) (by decide) n)
    rw [List.eq_of_mem_replicate hc]
    rfl
  unfold escapeNumber
  split
  · exact .cons rfl (.cons rfl (hdigits _))
  · split <;> exact .cons rfl (.cons rfl (hdigits _))

/-- A break is escaped, and no escape holds one. -/
theorem oneLine_quoteChar (hmark : isBreak mark = false) (c : Char) : (quoteChar mark c).OneLine := by
  unfold quoteChar
  split
  · rename_i hescaped
    have hc : isBreak c = false := by
      rcases hescaped with rfl | rfl
      · exact hmark
      · rfl
    exact .cons rfl (.cons hc .nil)
  split
  · decide
  split
  · decide
  split
  · decide
  split
  · rename_i hfeed hreturn _
    refine .cons ?_ .nil
    simp only [isBreak, Bool.or_eq_false_iff, beq_eq_false_iff_ne]
    exact ⟨hfeed, hreturn⟩
  · exact oneLine_escapeNumber _

/-- A quoted text is on one line, whatever it quotes. -/
theorem oneLine_quoted (t : Text) : t.quoted.OneLine := by
  have hmark : isBreak (quoteMark t) = false := by
    unfold quoteMark
    split <;> rfl
  refine OneLine.append (.cons hmark fun c hc => ?_) (.cons hmark .nil)
  obtain ⟨d, -, hd⟩ := List.mem_flatMap.mp hc
  exact oneLine_quoteChar hmark d c hd

end Text

/-! ### Paths of URLs -/

namespace Url

theorem cutScheme_suffix (t : Text) : (cutScheme t).2 <:+ t := by
  unfold cutScheme
  split
  · rename_i hcut
    split
    · rw [Text.eq_append_of_cutFirst? hcut]
      exact (List.suffix_cons ':' _).trans (List.suffix_append _ _)
    · exact List.suffix_refl t
  · exact List.suffix_refl t

theorem cutAuthority_suffix (t : Text) : (cutAuthority t).2 <:+ t := by
  unfold cutAuthority
  split
  · exact (List.dropWhile_suffix _).trans (List.suffix_append ['/', '/'] _)
  · exact List.suffix_refl _

/-- The path of a URL is made of what counts in its text. -/
theorem mem_counted_of_read {t : Text} {u : Url} (h : read t = .ok u) {c : Char} (hc : c ∈ u.path) :
    c ∈ counted t := by
  have hpath : u.path = (cutAt '?' (cutAt '#' (cutAuthority (cutScheme (counted t)).2).2).1).1 := by
    simp only [read, bind, Except.bind, pure, Except.pure] at h
    split at h
    · cases h
    · split at h
      · cases h
      · cases h
        rfl
  rw [hpath] at hc
  have hrest := mem_of_mem_cutAt (mem_of_mem_cutAt hc)
  exact (cutScheme_suffix _).subset ((cutAuthority_suffix _).subset hrest)

theorem oneLine_path {t : Text} {u : Url} (h : read t = .ok u) : u.path.OneLine := by
  intro c hc
  have hcounted := mem_counted_of_read h hc
  rw [counted, List.mem_filter] at hcounted
  simp only [isDropped, Bool.not_eq_true', Bool.or_eq_false_iff] at hcounted
  rw [Text.isBreak, hcounted.2.2, hcounted.2.1.2]
  rfl

end Url

theorem Request.oneLine_shownPath {r : Request} {shown : Text} (h : r.shownPath = .ok shown) :
    shown.OneLine := by
  simp only [shownPath, url, bind, Except.bind] at h
  cases htext : r.urlText r.path with
  | error e =>
      rw [htext] at h
      cases h
  | ok t =>
      rw [htext] at h
      cases hread : Url.read t with
      | error e =>
          simp only [hread] at h
          cases h
      | ok u =>
          simp only [hread] at h
          cases h
          exact Url.oneLine_path hread

/-! ### Texts of failures -/

open Text

theorem SystemError.oneLine_messageAbout (e : SystemError) (path : Text) :
    (e.messageAbout path).OneLine := by
  have hdescription : e.description.OneLine := by
    cases e
    case other e => exact oneLine_iff.mpr e.oneLine
    all_goals decide
  have hmessage : e.message.OneLine :=
    .append (.append (.append (by decide +kernel) (oneLine_ofInt _)) (by decide +kernel)) hdescription
  exact .append (.append hmessage (by decide +kernel)) (oneLine_quoted path)

theorem PathError.oneLine_failure (e : PathError) (path : Text) : (e.failure path).message.OneLine := by
  cases e with
  | embeddedNull =>
      change OneLine "embedded null byte".toList
      decide
  | system e => exact e.oneLine_messageAbout path

/-- The text of a failure past the check of the directory is on one line. The URL of a request that
is told does not fail, so what its failures name does not matter. -/
theorem Failure.Arises.oneLine_message {r : Request} {e : Failure} (h : e.Arises r)
    (hlegible : r.Legible) : e.message.OneLine := by
  cases h with
  | path e path => exact e.oneLine_failure path
  | digits count =>
      exact .append (.append (by decide +kernel) (oneLine_ofNat count)) (by decide +kernel)
  | url e hurl =>
      exfalso
      rcases hurl with hurl | ⟨path, htext⟩
      · obtain ⟨u, hu⟩ := hlegible
        rw [hurl] at hu
        cases hu
      · obtain ⟨t, ht⟩ := hlegible.exists_urlText path
        rw [htext] at ht
        cases ht
  | year year =>
      exact .append (.append (by decide +kernel) (oneLine_ofInt year)) (by decide +kernel)

/-- A failure of the check names the directory as the settings do, or quotes it. -/
theorem Site.oneLine_checkRoot {v : Vantage} {root : Text} {e : Failure}
    (h : checkRoot v root = .error e) (hroot : root.OneLine) : e.message.OneLine := by
  rcases checkRoot_cases h with rfl | rfl | ⟨e', rfl⟩
  · exact .append (.append (by decide +kernel) hroot) (by decide +kernel)
  · exact .append (.append (by decide +kernel) hroot) (by decide +kernel)
  · exact e'.oneLine_failure root

/-! ### Lines -/

/-- A line of the log that is one line wherever it is written, with the time or without. -/
structure LogLine.Single (l : LogLine) : Prop where
  text : l.text.OneLine
  stamped : ∀ time, time.OneLine → (l.stamped time).OneLine

theorem LogLine.single {l : LogLine} (hlogger : l.logger.OneLine) (h : l.message.OneLine) :
    l.Single := by
  have hlevel : l.level.name.OneLine := by cases l.level <;> decide +kernel
  have hdash : OneLine " - ".toList := by decide +kernel
  constructor
  · exact .append (.append (.append (.append hlevel (by decide)) hlogger) (by decide +kernel)) h
  · intro time htime
    exact .append (.append htime hdash) (.append (.append hlogger hdash)
      (.append (.append hlevel hdash) h))

namespace App

variable {a : App} {v : Vantage} {r : Request} {c : Circumstances} {shown : Text}

theorem oneLine_logger : logger.OneLine := by
  decide

theorem single_answeredLine (hmethod : r.method.OneLine) (hshown : shown.OneLine)
    (helapsed : c.elapsed.OneLine) (status : Status) : (answeredLine c r shown status).Single := by
  have hasked : (r.method ++ [' '] ++ shown).OneLine := .append (.append hmethod (by decide)) hshown
  have hstatus := OneLine.append (.append hasked (t := " -> ".toList) (by decide +kernel))
    (oneLine_ofNat status.code)
  refine LogLine.single oneLine_logger ?_
  exact .append (.append (.append hstatus (by decide +kernel)) helapsed) (by decide +kernel)

theorem single_failedLine (hmethod : r.method.OneLine) (hshown : shown.OneLine)
    (helapsed : c.elapsed.OneLine) {e : Failure} (he : e.message.OneLine) :
    (failedLine c r shown e).Single := by
  have hasked : (r.method ++ [' '] ++ shown).OneLine := .append (.append hmethod (by decide)) hshown
  refine LogLine.single oneLine_logger ?_
  exact .append (.append (.append (.append hasked (by decide +kernel)) helapsed) (by decide +kernel)) he

/-- What fails for a request that is told has its text on one line. -/
theorem oneLine_failure {boundary : Text} (hroot : a.settings.rootDir.OneLine) (hlegible : r.Legible)
    {e : Failure} (h : (a.respond v boundary r).2 = .error e) : e.message.OneLine := by
  rw [respond_snd] at h
  have hfailure : failure? ((a.material v r).result v boundary r) = some e := by rw [h]; rfl
  rcases a.material_failure v r hfailure with harises | ⟨-, -, hchecked⟩
  · exact harises.oneLine_message hlegible
  · exact Site.oneLine_checkRoot hchecked hroot

theorem oneLine_of_token {method : Text} (h : Wire.isRun Wire.isTokenChar method = true) :
    method.OneLine := by
  have hname := Wire.isName_of_isRun h
  exact oneLine_iff.mpr ⟨hname.not_mem (by decide +kernel), hname.not_mem (by decide +kernel)⟩

/-- Each line that is written for a request is one line, if the directory of the site is named on one:
nothing in the request breaks it, be it answered or failed. -/
theorem handle_single (hroot : a.settings.rootDir.OneLine) (v : Vantage) {c : Circumstances}
    (helapsed : c.elapsed.OneLine) {r : Request}
    (htoken : Wire.isRun Wire.isTokenChar r.method = true) :
    ∀ line ∈ (a.handle v c r).2.log, line.logger = logger ∧ line.Single := by
  have hmethod := oneLine_of_token htoken
  intro line hline
  by_cases hlegible : r.Legible
  · have hrecorded := (a.handle_recorded_iff v r c).mpr hlegible
    generalize hresult : (a.respond v c.boundary r).2 = result at hrecorded
    cases hrecorded with
    | answered d shown htold _ hlog =>
        rw [hlog, List.mem_singleton] at hline
        rw [hline]
        exact ⟨rfl, single_answeredLine hmethod (Request.oneLine_shownPath htold) helapsed _⟩
    | failed e shown htold _ hlog =>
        have he := oneLine_failure hroot hlegible hresult
        rw [hlog, List.mem_singleton] at hline
        rw [hline]
        exact ⟨rfl, single_failedLine hmethod (Request.oneLine_shownPath htold) helapsed he⟩
  · rw [(a.handle_of_not_legible v r hlegible c).1] at hline
    cases hline

end App

/-! ### A name with a break -/

namespace BrokenName

def site : App :=
  ⟨Settings.standard "pub".toList, ⟨[]⟩, true⟩

/-- A directory whose name holds a break, which an ordinary process may not search. -/
def vantage : Vantage :=
  ⟨⟨[(["pub".toList], ⟨.directory, 0o755⟩), (["pub".toList, "a\rb".toList], ⟨.directory, 0o600⟩)]⟩,
    .ordinary, []⟩

def circumstances : Circumstances := ⟨[], "0.1".toList, []⟩

def request : Request :=
  ⟨"GET".toList, "/a%0db/".toList, [], some ("testserver".toList, 80), "http".toList, []⟩

/-- The request fails on the directory, of which its line tells the path, and that is one line. -/
theorem handle_single_carriage :
    (site.handle vantage circumstances request).2.log.map LogLine.text =
        [("ERROR main: GET /ab/ failed (0.1ms): " ++
          "[Errno 13] Permission denied: '/pub/a\\rb/index.html'").toList] ∧
      ∀ line ∈ (site.handle vantage circumstances request).2.log,
        line.logger = App.logger ∧ line.Single := by
  have hroot : site.settings.rootDir.OneLine := by decide +kernel
  have helapsed : circumstances.elapsed.OneLine := by decide +kernel
  have htoken : Wire.isRun Wire.isTokenChar request.method = true := by decide +kernel
  exact ⟨by decide +kernel, App.handle_single hroot vantage helapsed htoken⟩

end BrokenName

end StaticSite
