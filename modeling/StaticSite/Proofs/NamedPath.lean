import StaticSite.Proofs.LocationText
import StaticSite.Proofs.Recording
import StaticSite.Proofs.Sending

/-! The path by which a request is reported. Where a request reaches a server, its line in the log and
the message of a refusal name the path as it stands in the URL: behind a slash, with the marks coded
that would end it there and without the characters that do not count. So paths that hold neither these
characters nor the codes of the marks are told apart by what is reported. -/

namespace StaticSite

/-! ### Texts that are told apart by their codes -/

/-- A code in which no character begins the code of another tells texts apart. -/
theorem Text.flatMap_injective {code : Char → Text} (hne : ∀ c, code c ≠ [])
    (hfree : ∀ c d, code c <+: code d → c = d) {s t : Text} (h : s.flatMap code = t.flatMap code) :
    s = t := by
  induction s generalizing t with
  | nil =>
      cases t with
      | nil => rfl
      | cons d t => exact absurd (List.append_eq_nil_iff.mp h.symm).1 (hne d)
  | cons c s ih =>
      cases t with
      | nil => exact absurd (List.append_eq_nil_iff.mp h).1 (hne c)
      | cons d t =>
          rw [List.flatMap_cons, List.flatMap_cons] at h
          have hbegins : code c <+: code d ++ t.flatMap code := h ▸ List.prefix_append _ _
          have hsame : c = d := by
            rcases List.prefix_or_prefix_of_prefix hbegins (List.prefix_append _ _) with hcd | hdc
            · exact hfree c d hcd
            · exact (hfree d c hdc).symm
          subst hsame
          rw [ih (List.append_cancel_left h)]

namespace JsonText

/-- The characters that a string of JSON holds in escapes. -/
def escaped : List Char :=
  (List.range 0x20).map Char.ofNat ++ ['"', '\\']

/-- A character stands for itself, or begins an escape. -/
theorem escapeChar_cases (c : Char) :
    escapeChar c = [c] ∧ c ≠ '\\' ∨ c ∈ escaped ∧ ∃ t, escapeChar c = '\\' :: t := by
  rw [escapeChar]
  cases hshort : shortEscapes.lookup c with
  | some short =>
      right
      obtain ⟨before, after, hsplit, -⟩ := List.lookup_eq_some_iff.mp hshort
      have hmem : (c, short) ∈ shortEscapes := by
        rw [hsplit]
        simp
      have hall : ∀ entry ∈ shortEscapes, entry.1 ∈ escaped := by decide
      exact ⟨hall _ hmem, _, rfl⟩
  | none =>
      simp only
      split
      · rename_i hcontrol
        refine Or.inr ⟨List.mem_append_left _ (List.mem_map.mpr ⟨c.toNat, ?_, ?_⟩), _, rfl⟩
        · exact List.mem_range.mpr hcontrol
        · exact Char.ofNat_toNat c
      · refine Or.inl ⟨rfl, ?_⟩
        rintro rfl
        revert hshort
        decide

/-- No escape begins another one. -/
theorem escapeChar_prefixFree (c d : Char) (h : escapeChar c <+: escapeChar d) : c = d := by
  have hall : escaped.all (fun c => escaped.all fun d =>
      !(escapeChar c).isPrefixOf (escapeChar d) || c == d) = true := by
    decide +kernel
  rcases escapeChar_cases c with ⟨hc, hplain⟩ | ⟨hc, s, hs⟩
  · rcases escapeChar_cases d with ⟨hd, -⟩ | ⟨-, t, ht⟩
    · rw [hc, hd, List.cons_prefix_cons] at h
      exact h.1
    · rw [hc, ht, List.cons_prefix_cons] at h
      exact absurd h.1 hplain
  · rcases escapeChar_cases d with ⟨hd, hplain⟩ | ⟨hd, t, ht⟩
    · rw [hs, hd, List.cons_prefix_cons] at h
      exact absurd h.1.symm hplain
    · have hpair := List.all_eq_true.mp (List.all_eq_true.mp hall c hc) d hd
      rw [List.isPrefixOf_iff_prefix.mpr h] at hpair
      simpa using hpair

/-- A string of JSON tells the text it stands for. -/
theorem encode_injective {s t : Text} (h : encode s = encode t) : s = t := by
  refine Text.flatMap_injective (fun c => ?_) escapeChar_prefixFree
    (List.append_cancel_right (List.cons.inj h).2)
  rcases escapeChar_cases c with ⟨hc, -⟩ | ⟨-, t, ht⟩
  · rw [hc]
    exact List.cons_ne_nil _ _
  · rw [ht]
    exact List.cons_ne_nil _ _

end JsonText

theorem Utf8.encode_injective {s t : Text} (h : encode s = encode t) : s = t := by
  rw [← decodeLossy_encode s, h, decodeLossy_encode]

/-- A refusal tells its message. -/
theorem Response.refusal_injective {status : Status} {first : Headers} {message message' : Text}
    (h : refusal status first message = refusal status first message') : message = message' := by
  have hbody := congrArg Response.body h
  unfold refusal at hbody
  have htext := Utf8.encode_injective hbody
  unfold refusalText at htext
  rw [List.append_left_inj, List.append_left_inj, List.append_left_inj, List.append_left_inj,
    List.append_left_inj] at htext
  exact JsonText.encode_injective (List.append_cancel_left htext)

/-! ### The path in a URL, named again -/

namespace Request

/-- A path as it is named where a request reaches a server: behind a slash, the marks coded that would
end it in a URL, without the characters that do not count there. -/
def named (path : Text) : Text :=
  (Url.rooted (path.flatMap pathChar)).filter (!Url.isDropped ·)

/-- How the marks are coded that would end a path. -/
def markCodes : List Text :=
  ["%3F", "%23", "%5C"].map String.toList

/-- A path that can be told from others by its name: it begins with a slash, and holds no character that
does not count and no code of a mark. -/
structure Tellable (path : Text) : Prop where
  rooted : path.head? = some '/'
  kept : ∀ c ∈ path, Url.isDropped c = false
  uncoded : ∀ code ∈ markCodes, ¬ code <:+: path

/-- A character stands for itself, or is a mark and stands in a code. -/
theorem pathChar_cases (c : Char) :
    pathChar c = [c] ∨ pathChar c ∈ markCodes ∧ c ∈ "?#\\".toList := by
  by_cases hquestion : c = '?'
  · rw [hquestion]
    exact Or.inr (by decide)
  by_cases hhash : c = '#'
  · rw [hhash]
    exact Or.inr (by decide)
  by_cases hbackslash : c = '\\'
  · rw [hbackslash]
    exact Or.inr (by decide)
  · left
    rw [pathChar, if_neg hquestion, if_neg hhash, if_neg hbackslash]

theorem pathChar_ne_nil (c : Char) : pathChar c ≠ [] := by
  rcases pathChar_cases c with h | ⟨h, -⟩
  · rw [h]
    exact List.cons_ne_nil _ _
  · intro hnil
    rw [hnil] at h
    revert h
    decide

/-- Each code is a sign and two digits. -/
theorem exists_of_mem_markCodes {code : Text} (h : code ∈ markCodes) :
    ∃ a b, code = ['%', a, b] ∧ a ≠ '%' ∧ b ≠ '%' := by
  have hall : ∀ code ∈ markCodes, code.length = 3 ∧ code.head? = some '%' ∧ '%' ∉ code.tail := by
    decide
  obtain ⟨hlength, hhead, htail⟩ := hall code h
  match code with
  | [sign, a, b] =>
      obtain rfl := Option.some.inj hhead
      simp only [List.tail_cons, List.mem_cons, List.not_mem_nil, or_false, not_or] at htail
      exact ⟨a, b, rfl, Ne.symm htail.1, Ne.symm htail.2⟩

/-- What is not a sign stands for itself where marks are coded. -/
theorem eq_cons_of_flatMap {path rest : Text} {c : Char} (hc : c ≠ '%')
    (h : path.flatMap pathChar = c :: rest) :
    ∃ path', path = c :: path' ∧ path'.flatMap pathChar = rest := by
  cases path with
  | nil => cases h
  | cons d path =>
      rw [List.flatMap_cons] at h
      rcases pathChar_cases d with hd | ⟨hd, -⟩
      · rw [hd, List.singleton_append, List.cons.injEq] at h
        obtain ⟨rfl, h⟩ := h
        exact ⟨path, rfl, h⟩
      · obtain ⟨a, b, hcode, -, -⟩ := exists_of_mem_markCodes hd
        rw [hcode, List.cons_append, List.cons.injEq] at h
        exact absurd h.1.symm hc

/-- A code where a mark is coded comes from that mark, or is there in the path itself. -/
theorem isPrefix_of_flatMap {code path rest : Text} (hcode : code ∈ markCodes) {d : Char}
    (hd : pathChar d = [d]) (h : (d :: path).flatMap pathChar = code ++ rest) : code <+: d :: path := by
  obtain ⟨a, b, rfl, ha, hb⟩ := exists_of_mem_markCodes hcode
  rw [List.flatMap_cons, hd, List.singleton_append, List.cons_append, List.cons.injEq] at h
  obtain ⟨rfl, h⟩ := h
  obtain ⟨path', rfl, hpath⟩ := eq_cons_of_flatMap ha h
  obtain ⟨path'', rfl, -⟩ := eq_cons_of_flatMap hb hpath
  exact ⟨path'', rfl⟩

/-- Without codes of its own, a path is told by what is left of it where marks are coded. -/
theorem flatMap_pathChar_injective {path path' : Text} (h : ∀ code ∈ markCodes, ¬ code <:+: path)
    (h' : ∀ code ∈ markCodes, ¬ code <:+: path')
    (hsame : path.flatMap pathChar = path'.flatMap pathChar) : path = path' := by
  induction path generalizing path' with
  | nil =>
      cases path' with
      | nil => rfl
      | cons d path' => exact absurd (List.append_eq_nil_iff.mp hsame.symm).1 (pathChar_ne_nil d)
  | cons c path ih =>
      cases path' with
      | nil => exact absurd (List.append_eq_nil_iff.mp hsame).1 (pathChar_ne_nil c)
      | cons d path' =>
          have hrest : ∀ {x : Char} {t : Text}, (∀ code ∈ markCodes, ¬ code <:+: x :: t) →
              ∀ code ∈ markCodes, ¬ code <:+: t :=
            fun hno code hcode hin => hno code hcode (hin.trans (List.suffix_cons _ _).isInfix)
          have hchar : c = d ∧ path.flatMap pathChar = path'.flatMap pathChar := by
            rcases pathChar_cases c with hc | ⟨hc, hmark⟩ <;>
              rcases pathChar_cases d with hd | ⟨hd, hmark'⟩
            · rw [List.flatMap_cons, List.flatMap_cons, hc, hd] at hsame
              exact List.cons.inj hsame
            · exact absurd (isPrefix_of_flatMap hd hc hsame).isInfix (h _ hd)
            · exact absurd (isPrefix_of_flatMap hc hd hsame.symm).isInfix (h' _ hc)
            · obtain ⟨a, b, hcode, -, -⟩ := exists_of_mem_markCodes hc
              obtain ⟨a', b', hcode', -, -⟩ := exists_of_mem_markCodes hd
              have hmarks : ("?#\\".toList.all fun x => "?#\\".toList.all fun y =>
                  pathChar x != pathChar y || x == y) = true := by
                decide
              have hlength : (pathChar c).length = (pathChar d).length := by
                rw [hcode, hcode']
                rfl
              obtain ⟨hcodes, hpaths⟩ := List.append_inj hsame hlength
              have hsame := List.all_eq_true.mp (List.all_eq_true.mp hmarks c hmark) d hmark'
              exact ⟨by simpa [hcodes] using hsame, hpaths⟩
          rw [hchar.1, ih (hrest h) (hrest h') hchar.2]

/-- A tellable path is told by its name. -/
theorem Tellable.eq_of_named {path path' : Text} (h : Tellable path) (h' : Tellable path')
    (hsame : named path = named path') : path = path' := by
  rw [named, named, filter_rooted_path h.rooted h.kept, filter_rooted_path h'.rooted h'.kept] at hsame
  exact flatMap_pathChar_injective h.uncoded h'.uncoded hsame

/-- A path without marks in which everything counts is named as it is. -/
theorem named_eq_self {path : Text} (hrooted : path.head? = some '/')
    (hkept : ∀ c ∈ path, Url.isDropped c = false ∧ c ∉ "?#\\".toList) : named path = path := by
  rw [named, filter_rooted_path hrooted fun c hc => (hkept c hc).1]
  clear hrooted
  induction path with
  | nil => rfl
  | cons c path ih =>
      obtain ⟨⟨-, hmark⟩, hrest⟩ := List.forall_mem_cons.mp hkept
      rw [List.flatMap_cons, (pathChar_cases c).resolve_right fun h => hmark h.2, ih hrest]
      rfl

/-! ### The URL of a request that reaches a server -/

variable {r : Request}

/-- Where a request goes that names no host, if nothing in the name of the server ends it. -/
theorem exists_authority_of_server {name : Text} {port expected : Int}
    (hscheme : defaultPort? r.scheme = some expected)
    (hunnamed : r.headers.first? "host".toList = none) (hserver : r.server = some (name, port))
    (hname : name ≠ []) (hends : ∀ x ∈ name, Url.endsAuthority x = false) :
    ∃ authority, r.authority? = .ok (some authority) ∧ authority ≠ [] ∧
      ∀ x ∈ authority, Url.endsAuthority x = false := by
  have hbracketed : bracketed name ≠ [] ∧ ∀ x ∈ bracketed name, Url.endsAuthority x = false := by
    rw [bracketed]
    split
    · refine ⟨by simp, fun x hx => ?_⟩
      simp only [List.cons_append, List.mem_cons, List.mem_append, List.not_mem_nil, or_false] at hx
      rcases hx with rfl | hx | rfl
      · decide
      · exact hends x hx
      · decide
    · exact ⟨hname, hends⟩
  refine ⟨if port = expected then bracketed name else bracketed name ++ ':' :: Text.ofInt port, ?_, ?_,
    fun x hx => ?_⟩
  · simp only [authority?, hunnamed, Option.filter_none, hserver, hscheme]
  · split
    · exact hbracketed.1
    · simp
  · split at hx
    · exact hbracketed.2 x hx
    · rcases List.mem_append.mp hx with hx | hx
      · exact hbracketed.2 x hx
      · rcases List.mem_cons.mp hx with rfl | hx
        · decide
        · exact Url.not_endsAuthority (isPlainChar_of_mem_ofInt hx)

/-- If the URL of such a request can be read, its path is shown by its name. -/
theorem Legible.shownPath_eq (h : r.Legible) {authority : Text} (hscheme : Url.isScheme r.scheme = true)
    (hreached : r.authority? = .ok (some authority)) (hne : authority ≠ [])
    (hends : ∀ x ∈ authority, Url.endsAuthority x = false) : r.shownPath = .ok (named r.path) := by
  obtain ⟨u, hu⟩ := h
  obtain ⟨query, fragment, hread, -⟩ := Url.read_text_eq r.query hscheme hne hends
    (not_mem_flatMap_pathChar (Or.inl rfl) r.path) (not_mem_flatMap_pathChar (Or.inr rfl) r.path)
  have hurl : r.url = Url.read (Url.text ⟨r.scheme, authority, r.path.flatMap pathChar, r.query, []⟩) := by
    rw [url, urlText, hreached]
    rfl
  rw [hread] at hurl
  rw [shownPath, hu]
  rw [hu] at hurl
  cases hbrackets : Url.checkBrackets (authority.filter (!Url.isDropped ·)) with
  | error e =>
      rw [hbrackets] at hurl
      cases hurl
  | ok _ =>
      cases hdeceptive : Url.checkDeceptive (authority.filter (!Url.isDropped ·)) with
      | error e =>
          rw [hbrackets, hdeceptive] at hurl
          cases hurl
      | ok _ =>
          rw [hbrackets, hdeceptive] at hurl
          cases hurl
          rfl

end Request

/-! ### Reports -/

theorem Response.timed_injective {x y : Response} {c : Circumstances} (h : x.timed c = y.timed c) :
    x = y := by
  cases x
  cases y
  simp only [timed, Response.mk.injEq, List.append_left_inj] at h
  rw [Response.mk.injEq]
  exact h

/-- An answer that reports its request by a path: in the one line that is written for it, behind the
method and before what came of it, and in the message of a refusal. -/
structure Answer.Names (c : Circumstances) (r : Request) (path : Text) (x : Answer) : Prop where
  line : ∃ line, x.log = [line] ∧ line.logger = App.logger ∧
    (r.method ++ [' '] ++ path ++ " -> ".toList <+: line.message ∨
      r.method ++ [' '] ++ path ++ " failed".toList <+: line.message)
  refusal : ∀ message, x.response = (Response.refusal .notFound [] message).timed c →
    message = App.notFoundMessage r path

namespace App

variable {a : App} {v : Vantage} {r : Request} {boundary : Text}

/-- Each refusal of a path at which there is nothing names the path that is shown. -/
theorem Makes.message_eq {m : Material} (h : a.Makes v r m) {shown : Text}
    (hshown : r.shownPath = .ok shown) {d : Delivery} (hd : m.result v boundary r = .ok d)
    {message : Text} (hrefusal : d.response = Response.refusal .notFound [] message) :
    message = notFoundMessage r shown := by
  have hstatus : d.response.status = .notFound := by
    rw [hrefusal]
    rfl
  have hnotFound : ∀ d, App.notFound r = .ok d →
      d.response = Response.refusal .notFound [] message → message = notFoundMessage r shown := by
    intro d hd hrefusal
    rw [App.notFound, hshown] at hd
    cases hd
    exact (Response.refusal_injective hrefusal).symm
  have hredirect : ∀ target, (Response.redirect target).status ≠ .notFound := fun _ => Status.noConfusion
  cases h with
  | failure e => cases hd
  | notFound => exact hnotFound d hd hrefusal
  | unauthorized =>
      cases hd
      cases hstatus
  | notAllowed =>
      cases hd
      cases hstatus
  | outside =>
      rw [Material.result, App.outside] at hd
      split at hd
      · exact hnotFound d hd hrefusal
      · simp only at hd
        split at hd
        · cases hd
        · exact hnotFound d hd hrefusal
        · split at hd
          · cases hd
            exact absurd hstatus (hredirect _)
          · cases hd
  | redirect =>
      rw [Material.result, redirectToDirectory] at hd
      split at hd
      · cases hd
        exact absurd hstatus (hredirect _)
      · cases hd
  | file s =>
      rw [Material.result] at hd
      cases hdescribe : Material.describe s with
      | error e =>
          rw [hdescribe] at hd
          cases hd
      | ok description =>
          rw [hdescribe] at hd
          cases hd
          dsimp only at hrefusal hstatus
          split at hrefusal
          · -- The page for what is missing has the headers of a file.
            have hheaders := congrArg (·.headers.length) hrefusal
            simp only [FileResponse.whole, FileResponse.headers_deliver] at hheaders
            cases hheaders
          · rename_i hpage
            rw [if_neg hpage] at hstatus
            exact absurd hstatus (FileResponse.status_answer_ne (by decide) _)

variable (a v)

/-- An answer names the path that is shown. -/
theorem handle_names (c : Circumstances) {shown : Text} (hshown : r.shownPath = .ok shown) :
    (a.handle v c r).2.Names c r shown := by
  rw [handle_snd]
  cases hresult : (a.material v r).result v c.boundary r with
  | error e =>
      simp only [conclude, hshown]
      refine ⟨⟨_, rfl, rfl, Or.inr ⟨" (".toList ++ c.elapsed ++ "ms): ".toList ++ e.message, ?_⟩⟩,
        fun message hmessage => ?_⟩
      · simp [failedLine]
      · have hstatus := congrArg Response.status hmessage
        cases hstatus
  | ok d =>
      rw [conclude_of_ok hshown]
      refine ⟨⟨_, rfl, rfl, Or.inl ⟨Text.ofNat d.response.status.code ++ " (".toList ++ c.elapsed ++
        "ms)".toList, ?_⟩⟩, fun message hmessage => ?_⟩
      · simp [answeredLine]
      · refine (a.material_makes v r).message_eq hshown hresult ?_
        exact Response.timed_injective hmessage

/-- A request that names no host and comes in at a server, in the name of which nothing ends it, is
reported by its path as that is named, if its URL can be read; and so it can where the server has the
name or the address of a host. A path without marks in which everything counts is named as it is, and
a path that can be told is named like no other one. -/
theorem names_path (c : Circumstances) {name : Text} {port expected : Int}
    (hscheme : Request.defaultPort? r.scheme = some expected)
    (hunnamed : r.headers.first? "host".toList = none) (hserver : r.server = some (name, port))
    (hname : name ≠ []) (hends : ∀ x ∈ name, Url.endsAuthority x = false) :
    (r.Legible → (a.handle v c r).2.Names c r (Request.named r.path)) ∧
      (Url.isAuthority (Request.bracketed name) = true → r.Legible) ∧
      (r.path.head? = some '/' → (∀ x ∈ r.path, Url.isDropped x = false ∧ x ∉ "?#\\".toList) →
        Request.named r.path = r.path) ∧
      ∀ path, Request.Tellable r.path → Request.Tellable path →
        Request.named path = Request.named r.path → path = r.path := by
  obtain ⟨authority, hreached, hne, hauthority⟩ :=
    Request.exists_authority_of_server hscheme hunnamed hserver hname hends
  have hknown : Url.isScheme r.scheme = true := Request.isScheme_of_defaultPort? hscheme
  refine ⟨fun hlegible => ?_, fun hvalid => ?_, Request.named_eq_self, fun path htold hpath hsame => ?_⟩
  · exact a.handle_names v c (hlegible.shownPath_eq hknown hreached hne hauthority)
  · exact Request.Located.legible (.server name port expected hserver hvalid hscheme)
  · exact hpath.eq_of_named htold hsame

end App

/-! ### Paths that are not named as they are -/

namespace NamedPaths

open PassingRoot

/-- A request that comes in at a server with a name. -/
def ask (target server : String) : Request :=
  { get target with server := some (server.toList, 80) }

/-- A path with a mark in it is named by the code, and no other path that can be told is. -/
theorem names_path_mark :
    (site.handle vantage circumstances (ask "/a%3Fb" "testserver")).2.Names circumstances
        (ask "/a%3Fb" "testserver") "/a%3Fb".toList ∧
      ∀ path, Request.Tellable path → Request.named path = "/a%3Fb".toList → path = "/a?b".toList := by
  have hpath : (ask "/a%3Fb" "testserver").path = "/a?b".toList := by decide +kernel
  have hnamed : Request.named "/a?b".toList = "/a%3Fb".toList := by decide +kernel
  have hkept : ("/a?b".toList.all fun x => !Url.isDropped x) = true := by decide
  have htold : Request.Tellable "/a?b".toList :=
    ⟨rfl, fun x hx => by simpa using List.all_eq_true.mp hkept x hx, by decide⟩
  have hwhole : ("testserver".toList.all fun x => !Url.endsAuthority x) = true := by decide
  have hends : ∀ x ∈ "testserver".toList, Url.endsAuthority x = false :=
    fun x hx => by simpa using List.all_eq_true.mp hwhole x hx
  obtain ⟨hnames, hlegible, -, hsame⟩ := site.names_path vantage (r := ask "/a%3Fb" "testserver")
    circumstances rfl rfl rfl (by decide) hends
  rw [hpath, hnamed] at hnames hsame
  exact ⟨hnames (hlegible (by decide)), fun path => hsame path htold⟩

/-- Not each path is named as it is: a mark is coded, so that the path is taken for one that holds the
code; a tabulator is left out; and a slash is put in front. Where something in the name of the server
ends it, the rest of that is named with the path; where the name is empty the path may be taken for it;
and where it cannot be read nothing is written. -/
theorem not_names_path :
    let answer (r : Request) := (site.handle vantage circumstances r).2
    let named (r : Request) := (answer r).Names circumstances r r.path
    ¬ named (ask "/a%3Fb" "testserver") ∧ ¬ named (ask "*" "testserver") ∧
      ¬ named (ask "/x" "a/b") ∧ ¬ named (ask "//x" "") ∧ (answer (ask "/x" "[")).log = [] ∧
      ((ask "/a%3Fb" "testserver").path ≠ (ask "/a%253Fb" "testserver").path ∧
        answer (ask "/a%3Fb" "testserver") = answer (ask "/a%253Fb" "testserver")) ∧
      ((ask "/a%09b" "testserver").path ≠ (ask "/ab" "testserver").path ∧
        answer (ask "/a%09b" "testserver") = answer (ask "/ab" "testserver")) := by
  intro answer named
  have hnot : ∀ r line, (answer r).log = [line] →
      (r.method ++ [' '] ++ r.path).isPrefixOf line.message = false → ¬ named r := by
    rintro r line hline hprefix ⟨⟨line', hline', -, hmessage⟩, -⟩
    obtain rfl := List.singleton_inj.mp (hline.symm.trans hline')
    have hbegins : r.method ++ [' '] ++ r.path <+: line.message := by
      rcases hmessage with h | h
      · exact (List.prefix_append _ _).trans h
      · exact (List.prefix_append _ _).trans h
    rw [List.isPrefixOf_iff_prefix.mpr hbegins] at hprefix
    cases hprefix
  refine ⟨hnot _ ⟨.info, App.logger, "GET /a%3Fb -> 404 (ms)".toList⟩ ?_ ?_,
    hnot _ ⟨.info, App.logger, "GET /* -> 404 (ms)".toList⟩ ?_ ?_,
    hnot _ ⟨.info, App.logger, "GET /b/x -> 404 (ms)".toList⟩ ?_ ?_,
    hnot _ ⟨.info, App.logger, "GET  -> 404 (ms)".toList⟩ ?_ ?_, ?_, ⟨?_, ?_⟩, ⟨?_, ?_⟩⟩
  all_goals decide +kernel

end NamedPaths

end StaticSite
