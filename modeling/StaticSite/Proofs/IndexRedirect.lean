import StaticSite.Proofs.LocationText
import StaticSite.Proofs.Sending

/-! From a directory to its index. A request for a directory by its path without a slash is redirected,
and the location, asked for in turn, is answered with the index: the path is put into a URL, read again
with a slash behind it, coded, and decoded by the next request, and comes out with the names as they
were. -/

namespace StaticSite

namespace Path

/-- Names are reduced to themselves, whatever empty parts stand around them. -/
theorem foldl_reduceStep_names {names : Path} (h : ∀ name ∈ names, IsName name) (before : Path) :
    names.foldl reduceStep before = names.reverse ++ before := by
  induction names generalizing before with
  | nil => rfl
  | cons name names ih =>
      obtain ⟨hname, hnames⟩ := List.forall_mem_cons.mp h
      have hstep : reduceStep before name = name :: before := by
        unfold reduceStep
        rw [if_neg hname.leaves, if_neg hname.2.2]
      rw [List.foldl_cons, hstep, ih hnames, List.reverse_cons, List.append_assoc]
      rfl

theorem reduce_names {names after : Path} (h : ∀ name ∈ names, IsName name) (hne : names ≠ [])
    (hafter : ∀ part ∈ after, part = []) : reduce ([] :: (names ++ after)) = names := by
  have hempty : ∀ (parts before : Path), (∀ part ∈ parts, part = []) →
      parts.foldl reduceStep before = before := by
    intro parts before
    induction parts with
    | nil => exact fun _ => rfl
    | cons part parts ih =>
        intro hparts
        obtain ⟨rfl, hrest⟩ := List.forall_mem_cons.mp hparts
        exact ih hrest
  have hfold : ([] :: (names ++ after)).foldl reduceStep [] = names.reverse := by
    rw [List.foldl_cons, List.foldl_append, hempty after _ hafter]
    exact (foldl_reduceStep_names h []).trans (List.append_nil _)
  rw [reduce, hfold, List.reverse_reverse]
  obtain ⟨name, names, rfl⟩ := List.exists_cons_of_ne_nil hne
  rfl

/-- A path that is written with a slash before each part has these parts. -/
theorem ofText_parts {parts : Path} (h : ∀ part ∈ parts, '/' ∉ part) :
    ofText (parts.flatMap ('/' :: ·)) = [] :: parts := by
  have hjoin : parts.flatMap ('/' :: ·) = Text.joinWith ['/'] ([] :: parts) := by
    rw [Text.joinWith_cons]
    rfl
  have hall : ∀ part ∈ [] :: parts, '/' ∉ part :=
    List.forall_mem_cons.mpr ⟨List.not_mem_nil, h⟩
  rw [ofText, hjoin, Text.splitOn_joinWith (List.cons_ne_nil _ _) hall]

theorem foldl_enter_names {names : Path} (h : ∀ name ∈ names, IsName name) (place : Location) :
    names.foldl enter place = place ++ names := by
  induction names generalizing place with
  | nil => exact (List.append_nil _).symm
  | cons name names ih =>
      obtain ⟨hname, hnames⟩ := List.forall_mem_cons.mp h
      rw [List.foldl_cons, enter_name hname, ih hnames, List.append_assoc]
      rfl

end Path

/-! ### What is made of a directory -/

/-- A directory below the top of a site with an index of a time that the tree keeps: the names on its path
are such as a path can hold, and the system takes the path of the index. -/
structure Vantage.Indexed (v : Vantage) (top names : Location) (content : List UInt8) : Prop where
  below : names ≠ []
  written : ∀ name ∈ names, '/' ∉ name ∧ '\n' ∉ name
  directory : v.files.hasDirectory (top ++ names) = true
  index : ∃ modified mode, FileSystem.keepTime modified = modified ∧
    v.files.find? (top ++ names ++ [App.indexName]) = some ⟨.file content modified, mode⟩
  fits : Location.Fits (top ++ names ++ [App.indexName])

namespace Vantage.Indexed

variable {v : Vantage} {top names : Location} {content : List UInt8}

theorem isName (h : v.Indexed top names content) (hplain : v.Plain) :
    ∀ name ∈ names, Path.IsName name := by
  obtain ⟨modified, mode, -, hindex⟩ := h.index
  intro name hname
  refine hplain.grounded.isName hindex name ?_
  exact List.mem_append_left _ (List.mem_append_right _ hname)

theorem notNull (h : v.Indexed top names content) :
    ∀ part ∈ names ++ [App.indexName], part.contains '\x00' = false := by
  have hnull := h.fits.admissible.notNull
  rw [Path.any_null_path, List.any_eq_false] at hnull
  intro part hpart
  refine Bool.eq_false_iff.mpr (hnull part ?_)
  rw [List.append_assoc]
  exact List.mem_append_right _ hpart

end Vantage.Indexed

namespace App

variable {a : App} {v : Vantage} {top names : Location} {content : List UInt8} {r : Request}

/-- What stands at a place of a site is found. -/
theorem StandsAt.lookup_eq (h : a.StandsAt v top) {p : Path} {place : Location} {e : Entry}
    (hplace : p.foldl Path.enter top = place) (hlooked : Site.beginsWithBackslash p = false)
    (hnull : ∀ part ∈ p, part.contains '\x00' = false) (hinside : top <+: place)
    (hfits : Location.Fits place) (he : v.files.find? place = some e) :
    Site.lookup v a.rootPath p = .ok (some ⟨place, e⟩) := by
  have hends := h.lookup_ends p
  rw [hplace] at hends
  generalize Site.lookup v a.rootPath p = result at hends ⊢
  cases hends with
  | outside houtside =>
      rw [hlooked] at houtside
      rcases houtside with hbackslash | hnot
      · cases hbackslash
      · exact absurd hinside hnot
  | absent _ hnone =>
      rw [hnone] at he
      cases he
  | found e' _ _ _ _ he' =>
      rw [he] at he'
      cases he'
      rfl
  | null part hpart hcontains =>
      rw [hnull part hpart] at hcontains
      cases hcontains
  | refused e _ hnot => exact absurd hfits hnot

/-- Of a directory with an index the index is made, or a redirect where no slash stands behind it. -/
theorem content_of_indexed (hsite : a.StandsAt v top) (hpages : a.settings.htmlIndex = true)
    (hindexed : v.Indexed top names content) (hlooked : Site.beginsWithBackslash names = false)
    (r : Request) :
    ∃ s : Source, s.content = content ∧ s.isPage = false ∧ Validator.nameable s.modified = true ∧
      a.contentMaterial v r names =
        if r.path.endsWith ['/'] then .file s else .fixed (redirectToDirectory r) := by
  obtain ⟨modified, mode, hkept, hindex⟩ := hindexed.index
  have hplace : names.foldl Path.enter top = top ++ names :=
    Path.foldl_enter_names (hindexed.isName hsite.plain) top
  have hnull := hindexed.notNull
  obtain ⟨d, hd, hdir⟩ : ∃ d, v.files.find? (top ++ names) = some d ∧ d.isDirectory = true := by
    have hhas := hindexed.directory
    rw [FileSystem.hasDirectory] at hhas
    exact (Option.any_eq_true _ _).mp hhas
  have hdirectory : Site.lookup v a.rootPath names = .ok (some ⟨top ++ names, d⟩) :=
    hsite.lookup_eq hplace hlooked (fun part hpart => hnull part (List.mem_append_left _ hpart))
      (List.prefix_append _ _) (hindexed.fits.of_prefix (List.prefix_append _ _)) hd
  have hlooked' : Site.beginsWithBackslash (names ++ [indexName]) = false := by
    rw [Site.beginsWithBackslash_append hindexed.below, hlooked]
  have hinside : top <+: top ++ names ++ [indexName] := by
    rw [List.append_assoc]
    exact List.prefix_append _ _
  have hfound : Site.lookup v a.rootPath (names ++ [indexName]) =
      .ok (some ⟨top ++ names ++ [indexName], ⟨.file content modified, mode⟩⟩) := by
    refine hsite.lookup_eq ?_ hlooked' hnull hinside hindexed.fits hindex
    rw [foldl_enter_indexName, hplace]
  refine ⟨⟨names ++ [indexName], top ++ names ++ [indexName], content, modified, false⟩, rfl, rfl,
    Validator.nameable_of_kept hkept, ?_⟩
  rw [contentMaterial, hdirectory]
  simp only [hdir, if_true, directoryMaterial, hpages, hfound, Entry.isFile]
  cases r.path.endsWith ['/'] with
  | true => rfl
  | false => rfl

/-! ### The two requests -/

/-- The path of a directory below the top, with or without a slash behind it. -/
def directoryPath (names : Location) (slash : Bool) : Text :=
  names.flatMap ('/' :: ·) ++ if slash then ['/'] else []

theorem directoryPath_eq_parts (names : Location) (slash : Bool) :
    directoryPath names slash = (names ++ if slash then [[]] else []).flatMap ('/' :: ·) := by
  cases slash <;> simp [directoryPath]

theorem mem_directoryPath {slash : Bool} {c : Char} (h : c ∈ directoryPath names slash) :
    c = '/' ∨ ∃ name ∈ names, c ∈ name := by
  rcases List.mem_append.mp h with h | h
  · obtain ⟨name, hname, hc⟩ := List.mem_flatMap.mp h
    rcases List.mem_cons.mp hc with hc | hc
    · exact Or.inl hc
    · exact Or.inr ⟨name, hname, hc⟩
  · cases slash with
    | true => exact Or.inl (List.mem_singleton.mp h)
    | false => cases h

theorem not_mem_directoryPath {slash : Bool} {c : Char} (hc : c ≠ '/') (h : ∀ name ∈ names, c ∉ name) :
    c ∉ directoryPath names slash := by
  intro hmem
  rcases mem_directoryPath hmem with hslash | ⟨name, hname, hin⟩
  · exact hc hslash
  · exact h name hname hin

theorem directoryPath_true (names : Location) :
    directoryPath names true = directoryPath names false ++ ['/'] := by
  simp [directoryPath]

/-- The path begins with one slash only. -/
theorem exists_directoryPath_eq (h : v.Indexed top names content) (hplain : v.Plain) :
    ∃ first rest, first ≠ '/' ∧ directoryPath names false = '/' :: first :: rest := by
  obtain ⟨name, others, hnames⟩ := List.exists_cons_of_ne_nil h.below
  have hmem : name ∈ names := by
    rw [hnames]
    exact List.mem_cons_self
  obtain ⟨first, after, rfl⟩ := List.exists_cons_of_ne_nil (h.isName hplain name hmem).1
  refine ⟨first, after ++ directoryPath others false, ?_, ?_⟩
  · rintro rfl
    exact (h.written _ hmem).1 List.mem_cons_self
  · rw [hnames]
    simp [directoryPath]

theorem endsWith_directoryPath (h : v.Indexed top names content) (hplain : v.Plain) (slash : Bool) :
    (directoryPath names slash).endsWith ['/'] = slash := by
  cases slash with
  | true => exact Text.endsWith_append_cons _ '/' [] '/'
  | false =>
      have hlast := List.dropLast_concat_getLast h.below
      generalize names.getLast h.below = last at hlast
      have hmem : last ∈ names := by
        rw [← hlast]
        exact List.mem_append_right _ (List.mem_singleton_self last)
      obtain ⟨c, rest, rfl⟩ := List.exists_cons_of_ne_nil (h.isName hplain last hmem).1
      have hpath : directoryPath names false =
          (names.dropLast.flatMap ('/' :: ·) ++ ['/']) ++ c :: rest := by
        rw [directoryPath, ← hlast]
        simp
      rw [hpath, Text.endsWith_append_cons, ← Bool.not_eq_true]
      exact fun hends => (h.written _ hmem).1 (Text.mem_of_endsWith hends)

/-- A request for the path of a directory asks for what its names lead to. -/
theorem asksFor_directoryPath (h : v.Indexed top names content) (hplain : v.Plain) {slash : Bool}
    (hmethod : r.method = "GET".toList) (hroot : r.rootPath = [])
    (hpath : r.path = directoryPath names slash) :
    ∃ q, r.AsksFor q ∧ servedPath q = names := by
  obtain ⟨q, hq⟩ : ∃ q, directoryPath names slash = '/' :: q := by
    obtain ⟨name, rest, rfl⟩ := List.exists_cons_of_ne_nil h.below
    exact ⟨_, rfl⟩
  have hfree : ∀ c, c ≠ '/' → (∀ name ∈ names, c ∉ name) → c ∉ q := by
    intro c hc hnames hmem
    have hnot : c ∉ directoryPath names slash := not_mem_directoryPath hc hnames
    rw [hq] at hnot
    exact hnot (List.mem_cons_of_mem _ hmem)
  have hline : '\n' ∉ q := hfree '\n' (by decide) fun name hname => (h.written name hname).2
  have hnull : '\x00' ∉ q := by
    refine hfree '\x00' (by decide) fun name hname hmem => ?_
    have hclean := h.notNull name (List.mem_append_left _ hname)
    rw [List.contains_iff_mem.mpr hmem] at hclean
    cases hclean
  refine ⟨q, ⟨hmethod, hroot, hpath.trans hq, hline, hnull⟩, ?_⟩
  have hparts : ∀ part ∈ names ++ (if slash then [[]] else []), '/' ∉ part := by
    intro part hpart
    rcases List.mem_append.mp hpart with hpart | hpart
    · exact (h.written part hpart).1
    · cases slash with
      | true => rw [List.mem_singleton.mp hpart]; exact List.not_mem_nil
      | false => cases hpart
  have hafter : ∀ part ∈ (if slash then [[]] else [] : Path), part = [] := by
    cases slash <;> simp
  rw [servedPath, ← hq, directoryPath_eq_parts, Path.ofText_parts hparts]
  exact Path.reduce_names (h.isName hplain) h.below hafter

/-- What is made of a request for the path of a directory with an index. -/
theorem material_of_indexed (hsite : a.StandsAt v top) (hmount : a.mount = ⟨[]⟩)
    (hpages : a.settings.htmlIndex = true) (hindexed : v.Indexed top names content)
    (hlooked : Site.beginsWithBackslash names = false) {slash : Bool}
    (hmethod : r.method = "GET".toList) (hroot : r.rootPath = [])
    (hpath : r.path = directoryPath names slash) :
    ∃ s : Source, s.content = content ∧ s.isPage = false ∧ Validator.nameable s.modified = true ∧
      a.material v r = if slash then .file s else .fixed (redirectToDirectory r) := by
  obtain ⟨q, hask, hserved⟩ := asksFor_directoryPath hindexed hsite.plain hmethod hroot hpath
  obtain ⟨s, hcontent, hpage, hnameable, hmaterial⟩ :=
    content_of_indexed hsite hpages hindexed hlooked r
  refine ⟨s, hcontent, hpage, hnameable, ?_⟩
  rw [material_of_asksFor hask hmount hsite.checkRoot_eq, hserved, hmaterial, hpath,
    endsWith_directoryPath hindexed hsite.plain]

/-- The index is sent whole for the path with a slash. -/
theorem sends_index (hsite : a.StandsAt v top) (hmount : a.mount = ⟨[]⟩)
    (hpages : a.settings.htmlIndex = true) (hindexed : v.Indexed top names content)
    (hlooked : Site.beginsWithBackslash names = false) (hmethod : r.method = "GET".toList)
    (hroot : r.rootPath = []) (hpath : r.path = directoryPath names true) (hwhole : r.Unconditional)
    (hlegible : r.Legible) (c : Circumstances) :
    (a.handle v c r).2.response.status = .ok ∧ (a.handle v c r).2.response.body = content ∧
      (a.handle v c r).2.complete = true ∧ (a.handle v c r).2.raised = none := by
  obtain ⟨s, hcontent, hpage, hnameable, hmaterial⟩ :=
    material_of_indexed hsite hmount hpages hindexed hlooked hmethod hroot hpath
  rw [if_pos rfl] at hmaterial
  obtain ⟨shown, hshown⟩ := Request.legible_iff_shownPath.mp hlegible
  obtain ⟨d, hpresents⟩ := exists_presents_of_nameable hshown hmaterial hpage hnameable
  have hread := hpresents.foundIn.read_eq hsite.plain
  rw [hpresents.handle_eq, headOnly_of_get hmethod, FileResponse.answer_of_unconditional hwhole,
    FileResponse.whole_of_read hread, conclude_of_ok hshown]
  exact ⟨rfl, hcontent, rfl, rfl⟩

end App

/-- A request for a coded path asks for this path alone. -/
theorem Request.path_of_coded {r : Request} {keep : Char → Bool} {path : Text}
    (hsign : keep '%' = false) (hmark : keep '?' = false) (hroot : r.rootPath = [])
    (htarget : r.target = Percent.encode keep path) : r.path = path ∧ r.query = [] := by
  have hkept : Percent.isKept keep '?' = false := by
    simp [Percent.isKept, Percent.isUnreserved, hmark]
  have hcut : Url.cutAt '?' r.target = (Percent.encode keep path, []) := by
    rw [htarget]
    exact Url.cutAt_of_not_mem (Percent.not_mem_encode hkept (by decide) (by decide) path)
  constructor
  · rw [Request.path, hroot, hcut]
    exact Percent.decode_encode hsign path
  · rw [Request.query, hcut]

/-- A request that follows another one to a URL without a condition. -/
structure Request.Follows (r' r : Request) (u : Url) : Prop where
  method : r'.method = "GET".toList
  target : r'.target = u.path ++ if u.query = [] then [] else '?' :: u.query
  rootPath : r'.rootPath = []
  host : r'.headers.first? "host".toList = r.headers.first? "host".toList
  server : r'.server = r.server
  scheme : r'.scheme = r.scheme
  whole : r'.Unconditional

/-- Where a location keeps a path, a request that follows to it asks for this path. -/
theorem Request.Follows.path_eq {r r' : Request} {u : Url} (h : r'.Follows r u) {path : Text}
    (hpath : u.path = Url.location (path.flatMap Request.pathChar)) (hquery : u.query = [])
    (hcode : Percent.holdsCode path = false) : r'.path = path := by
  have hcut : Url.cutAt '?' r'.target = (Url.location (path.flatMap Request.pathChar), []) := by
    rw [h.target, hquery, if_pos rfl, List.append_nil, hpath]
    exact Url.cutAt_of_not_mem (Url.not_mem_location (Or.inl rfl) path)
  rw [Request.path, h.rootPath, hcut]
  exact Url.decode_location hcode

theorem Request.Addressed.of_follows {r r' : Request} {u : Url} (h : r.Addressed)
    (hfollows : r'.Follows r u) (hkept : ∀ c ∈ r'.path, Url.isDropped c = false) : r'.Addressed := by
  have hreached : r'.authority? = r.authority? := by
    rw [authority?, authority?, hfollows.host, hfollows.server, hfollows.scheme]
  cases h with
  | nowhere h => exact .nowhere (hreached.trans h) hkept
  | located h =>
      refine .located ?_
      rcases h with ⟨⟨host, hnamed, hvalid⟩, hscheme⟩ |
        ⟨name, port, expected, hserver, hvalid, hscheme⟩
      · exact .host ⟨host, hfollows.host.trans hnamed, hvalid⟩ (hfollows.scheme ▸ hscheme)
      · exact .server name port expected (hfollows.server.trans hserver) hvalid
          (hfollows.scheme ▸ hscheme)

namespace App

variable {a : App} {v : Vantage} {top names : Location} {content : List UInt8} {r : Request}

end App

/-! ### Directories with odd names -/

namespace OddSite

open PassingRoot

/-- A name in which there is a bit of everything. -/
def odd : Name :=
  "a?#%é \\b:".toList

def backslash : Name :=
  "\\d".toList

def content : List UInt8 :=
  Utf8.encode "hello".toList

/-- A site with two directories that have an index. -/
def vantage : Vantage :=
  ⟨⟨[(["pub".toList], ⟨.directory, 0o755⟩),
    (["pub".toList, odd], ⟨.directory, 0o755⟩),
    (["pub".toList, odd, App.indexName], ⟨.file content 0, 0o644⟩),
    (["pub".toList, backslash], ⟨.directory, 0o755⟩),
    (["pub".toList, backslash, App.indexName], ⟨.file content 0, 0o644⟩)]⟩, .superuser, []⟩

/-- A request for a directory at the top, by its path with every character coded but the slashes. -/
def request (name : Name) : Request :=
  { get "/" with
    target := Percent.encode (· == '/') (App.directoryPath [name] false)
    server := some ("::1".toList, 8080) }

theorem standsAt : site.StandsAt vantage ["pub".toList] where
  plain := Vantage.plain_of_isPlain (by decide +kernel)
  root := ⟨⟨.directory, 0o755⟩, by decide +kernel, rfl⟩
  top := by decide +kernel

theorem indexed_odd : vantage.Indexed ["pub".toList] [odd] content where
  below := List.cons_ne_nil _ _
  written := by decide
  directory := by decide +kernel
  index := ⟨0, 0o644, rfl, by decide +kernel⟩
  fits := SmallSite.fits (by decide) (by decide) (by decide)

theorem indexed_backslash : vantage.Indexed ["pub".toList] [backslash] content where
  below := List.cons_ne_nil _ _
  written := by decide
  directory := by decide +kernel
  index := ⟨0, 0o644, rfl, by decide +kernel⟩
  fits := SmallSite.fits (by decide) (by decide) (by decide)

theorem addressed (name : Name) : (request name).Addressed :=
  .located (.server "::1".toList 8080 80 rfl (by decide +kernel) (if_pos (Or.inl rfl)))

theorem asksFor (name : Name) :
    (request name).path = App.directoryPath [name] false ∧ (request name).query = [] :=
  @Request.path_of_coded (request name) (· == '/') _ rfl rfl rfl rfl

/-- Where the directory with the odd name is. -/
def url : Url :=
  ⟨"http".toList, "[::1]:8080".toList, "/a%3F%23%%C3%A9%20%5Cb:/".toList, [], []⟩

/-- The request that follows the redirect. -/
def nextRequest : Request :=
  { request odd with target := url.path }

theorem nextRequest_follows : nextRequest.Follows (request odd) url :=
  ⟨rfl, by simp [nextRequest, url], rfl, rfl, rfl, rfl, ⟨rfl, rfl, rfl⟩⟩

end OddSite

end StaticSite
