import StaticSite.Proofs.KeptTimes
import StaticSite.Proofs.PlainTree
import StaticSite.Proofs.Routing
import StaticSite.Proofs.ShownPath

/-! What a site at the top serves from a plain tree. For each path it is settled by what stands where
the path leads as it is written: a file is sent as it is, a directory by its index, and where there is
neither the page for what is missing is sent, or a refusal. -/

namespace StaticSite

/-- What is served for a path: a file, the path with a slash, or that nothing is there, told by a page
or without one. -/
inductive Served where
  | file (content : List UInt8)
  | redirect
  | missing (page : Option (List UInt8))
  deriving DecidableEq, Repr

namespace FileSystem

/-- The content of the regular file at a location. -/
def fileAt? (fs : FileSystem) (l : Location) : Option (List UInt8) :=
  match fs.find? l with
  | some ⟨.file content _, _⟩ => some content
  | _ => none

/-- Whether a directory stands at a location. -/
def hasDirectory (fs : FileSystem) (l : Location) : Bool :=
  (fs.find? l).any (·.isDirectory)

end FileSystem

namespace Served

/-- What is served where nothing is to be sent. -/
def absent (fs : FileSystem) (htmlIndex : Bool) (top : Location) : Served :=
  .missing (if htmlIndex then fs.fileAt? (top ++ [App.missingName]) else none)

/-- What is served for a place at or below the top of a site. -/
def ofPlace (fs : FileSystem) (htmlIndex slash : Bool) (top place : Location) : Served :=
  match fs.fileAt? place with
  | some content => .file content
  | none =>
      if htmlIndex && fs.hasDirectory place then
        match fs.fileAt? (place ++ [App.indexName]) with
        | some content => if slash then .file content else .redirect
        | none => absent fs htmlIndex top
      else absent fs htmlIndex top

/-- What is served for a path, given by the place to which it leads. A path that begins with a
backslash is not looked up. -/
def ofPath (fs : FileSystem) (htmlIndex slash backslash : Bool) (top place : Location) : Served :=
  if !backslash && top.isPrefixOf place then ofPlace fs htmlIndex slash top place
  else absent fs htmlIndex top

/-- The material of which an answer is made that serves this. -/
inductive MadeOf (r : Request) : Served → Material → Prop
  | file (s : Source) (h : s.isPage = false) : MadeOf r (.file s.content) (.file s)
  | redirect : MadeOf r .redirect (.fixed (App.redirectToDirectory r))
  | page (s : Source) (h : s.isPage = true) : MadeOf r (.missing (some s.content)) (.file s)
  | refusal : MadeOf r (.missing none) (.fixed (App.notFound r))

end Served

/-! ### What is found -/

theorem Site.beginsWithBackslash_append {p : Path} (h : p ≠ []) (rest : Path) :
    beginsWithBackslash (p ++ rest) = beginsWithBackslash p := by
  obtain ⟨first, parts, rfl⟩ := List.exists_cons_of_ne_nil h
  cases first with
  | nil => rfl
  | cons c name =>
      by_cases hc : c = '\\'
      · rw [hc]
        rfl
      · simp only [List.cons_append, beginsWithBackslash]
        split <;> simp_all

/-- A site in the directory of a plain tree: its top is where the path of the directory leads as it is
written. -/
structure App.StandsAt (a : App) (v : Vantage) (top : Location) : Prop where
  plain : v.Plain
  root : ∃ e, v.stat a.rootPath = .ok e ∧ e.isDirectory = true
  top : Path.applyTo v.workingDirectory a.rootPath = top

namespace App.StandsAt

variable {a : App} {v : Vantage} {top : Location}

theorem admissible (h : a.StandsAt v top) : a.rootPath.Admissible := by
  obtain ⟨e, he, -⟩ := h.root
  obtain ⟨q, hq, -⟩ := Vantage.find?_of_stat he
  exact Vantage.admissible_of_locate hq

theorem checkRoot_eq (h : a.StandsAt v top) : Site.checkRoot v a.settings.rootDir = .ok () := by
  obtain ⟨e, he, hdir⟩ := h.root
  rw [rootPath] at he
  rw [Site.checkRoot, he]
  exact if_pos hdir

/-- How a look-up in the site ends. -/
theorem lookup_ends (h : a.StandsAt v top) (p : Path) :
    Site.Ends v top p (p.foldl Path.enter top) (Site.lookup v a.rootPath p) := by
  refine h.plain.lookup_ends h.admissible.notEmpty (fun part hpart => ?_) h.top p
  have hnull := List.any_eq_false.mp h.admissible.notNull part hpart
  simpa using hnull

end App.StandsAt

/-! ### What an answer is made of -/

namespace App

variable {a : App} {v : Vantage} {top : Location} {r : Request}

/-- What is found at a location as a regular file. -/
theorem fileAt?_of_find? {l : Location} {e : Entry} (he : v.files.find? l = some e) :
    v.files.fileAt? l = match e.node with
      | .file content _ => some content
      | _ => none := by
  rw [FileSystem.fileAt?, he]
  obtain ⟨node, mode⟩ := e
  cases node <;> rfl

theorem fileAt?_of_none {l : Location} (he : v.files.find? l = none) : v.files.fileAt? l = none := by
  rw [FileSystem.fileAt?, he]

/-- The failures in which the look-up for an index or for the page for what is missing may end, where
the system does not take the path of it. -/
inductive StumblesAt (a : App) (v : Vantage) (top place : Location) : Failure → Prop
  | index (e : PathError) (shown : a.settings.htmlIndex = true) (inside : top <+: place)
      (there : v.files.hasDirectory place = true) (h : ¬ Location.Fits (place ++ [indexName])) :
      StumblesAt a v top place (e.failure (Location.text (place ++ [indexName])))
  | missing (e : PathError) (shown : a.settings.htmlIndex = true)
      (h : ¬ Location.Fits (top ++ [missingName])) :
      StumblesAt a v top place (e.failure (Location.text (top ++ [missingName])))

/-- Material for what is served, unless a second look-up stumbles. -/
def Gives (a : App) (v : Vantage) (top place : Location) (r : Request) (served : Served)
    (m : Material) : Prop :=
  served.MadeOf r m ∨ ∃ e, m = .fixed (.error e) ∧ a.StumblesAt v top place e

theorem enter_missingName (top : Location) :
    [missingName].foldl Path.enter top = top ++ [missingName] := by
  have hname : Path.IsName missingName := by
    refine ⟨?_, ?_, ?_⟩ <;> decide
  exact Path.enter_name hname

theorem foldl_enter_indexName (p : Path) (top : Location) :
    (p ++ [indexName]).foldl Path.enter top = p.foldl Path.enter top ++ [indexName] := by
  have hname : Path.IsName indexName := by
    refine ⟨?_, ?_, ?_⟩ <;> decide
  rw [List.foldl_append]
  exact Path.enter_name hname

/-- Where nothing is to be sent, the page for what is missing is, or a refusal. -/
theorem missing_gives (h : a.StandsAt v top) (place : Location) :
    a.Gives v top place r (Served.absent v.files a.settings.htmlIndex top)
      (a.missingMaterial v r) := by
  rw [Served.absent, missingMaterial]
  cases hindex : a.settings.htmlIndex with
  | false => exact Or.inl .refusal
  | true =>
      have hends := h.lookup_ends [missingName]
      rw [enter_missingName] at hends
      rw [if_pos rfl, if_pos rfl]
      generalize Site.lookup v a.rootPath [missingName] = result at hends ⊢
      cases hends with
      | outside houtside =>
          refine absurd houtside (not_or.mpr ⟨by decide, fun hnot => hnot (List.prefix_append _ _)⟩)
      | absent _ he =>
          rw [fileAt?_of_none he]
          exact Or.inl .refusal
      | found e _ _ _ _ he =>
          rw [fileAt?_of_find? he]
          obtain ⟨node, mode⟩ := e
          cases node with
          | file content modified =>
              exact Or.inl (.page ⟨[missingName], top ++ [missingName], content, modified, true⟩ rfl)
          | _ => exact Or.inl .refusal
      | null part hpart hcontains =>
          rw [List.mem_singleton.mp hpart] at hcontains
          exact absurd hcontains (by decide)
      | refused e _ hfits => exact Or.inr ⟨_, rfl, .missing e hindex hfits⟩

/-- For a directory its index is served. -/
theorem directory_gives (h : a.StandsAt v top) {p : Path} {e : Entry} (hne : p ≠ [])
    (hinside : top <+: p.foldl Path.enter top) (hlooked : Site.beginsWithBackslash p = false)
    (hclean : ∀ part ∈ p, part.contains '\x00' = false)
    (he : v.files.find? (p.foldl Path.enter top) = some e) (hdir : e.isDirectory = true) :
    a.Gives v top (p.foldl Path.enter top) r
      (Served.ofPlace v.files a.settings.htmlIndex (r.path.endsWith ['/']) top
        (p.foldl Path.enter top)) (a.directoryMaterial v r p) := by
  have hmissing := missing_gives (r := r) h (p.foldl Path.enter top)
  have hfile : v.files.fileAt? (p.foldl Path.enter top) = none := by
    rw [fileAt?_of_find? he, Entry.isDirectory_iff.mp hdir]
  have hhas : v.files.hasDirectory (p.foldl Path.enter top) = true := by
    rw [FileSystem.hasDirectory, he]
    exact hdir
  rw [Served.ofPlace, hfile, directoryMaterial, hhas, Bool.and_true]
  cases hindex : a.settings.htmlIndex with
  | false =>
      rw [hindex] at hmissing
      exact hmissing
  | true =>
      have hends := h.lookup_ends (p ++ [indexName])
      have hlooked' : Site.beginsWithBackslash (p ++ [indexName]) = false := by
        rw [Site.beginsWithBackslash_append hne, hlooked]
      rw [foldl_enter_indexName] at hends
      rw [hindex] at hmissing
      simp only [if_true]
      generalize Site.lookup v a.rootPath (p ++ [indexName]) = result at hends ⊢
      cases hends with
      | outside houtside =>
          rw [hlooked'] at houtside
          refine absurd houtside (not_or.mpr ⟨Bool.false_ne_true, fun hnot => hnot ?_⟩)
          exact hinside.trans (List.prefix_append _ _)
      | absent _ hx =>
          rw [fileAt?_of_none hx]
          exact hmissing
      | found x _ _ _ _ hx =>
          rw [fileAt?_of_find? hx]
          obtain ⟨node, mode⟩ := x
          cases node with
          | file content modified =>
              left
              simp only [Entry.isFile, true_and]
              cases r.path.endsWith ['/'] with
              | true =>
                  exact .file ⟨p ++ [indexName], _, content, modified, false⟩ rfl
              | false => exact .redirect
          | _ => exact hmissing
      | null part hpart hcontains =>
          rcases List.mem_append.mp hpart with hpart | hpart
          · rw [hclean part hpart] at hcontains
            cases hcontains
          · rw [List.mem_singleton.mp hpart] at hcontains
            exact absurd hcontains (by decide)
      | refused e _ hfits => exact Or.inr ⟨_, rfl, .index e hindex hinside hhas hfits⟩

/-- What is made of a path below the mount: what is served for it, or a refusal where the system does
not take the path. -/
theorem content_gives (h : a.StandsAt v top) {p : Path} (hne : p ≠ []) :
    a.Gives v top (p.foldl Path.enter top) r
        (Served.ofPath v.files a.settings.htmlIndex (r.path.endsWith ['/'])
          (Site.beginsWithBackslash p) top (p.foldl Path.enter top)) (a.contentMaterial v r p) ∨
      (a.contentMaterial v r p = .fixed (notFound r) ∧
        ((∃ part ∈ p, part.contains '\x00' = true) ∨
          top <+: p.foldl Path.enter top ∧ ¬ Location.Fits (p.foldl Path.enter top))) := by
  have hmissing := missing_gives (r := r) h (p.foldl Path.enter top)
  have hends := h.lookup_ends p
  rw [contentMaterial]
  generalize Site.lookup v a.rootPath p = result at hends ⊢
  cases hends with
  | outside houtside =>
      left
      rw [Served.ofPath, if_neg]
      · exact hmissing
      · rw [Bool.and_eq_true, List.isPrefixOf_iff_prefix]
        rintro ⟨hlooked, hinside⟩
        rcases houtside with hbackslash | hnot
        · rw [hbackslash] at hlooked
          cases hlooked
        · exact hnot hinside
  | absent hinside he =>
      left
      rw [Served.ofPath, Served.ofPlace, fileAt?_of_none he, FileSystem.hasDirectory, he]
      simp only [Option.any_none, Bool.and_false, Bool.false_eq_true, if_false, ite_self]
      exact hmissing
  | found e hinside hlooked hclean hfits he =>
      left
      rw [Served.ofPath, hlooked, Bool.not_false, Bool.true_and,
        if_pos (List.isPrefixOf_iff_prefix.mpr hinside)]
      cases hdir : e.isDirectory with
      | true =>
          simp only [hdir, if_true]
          exact directory_gives h hne hinside hlooked hclean he hdir
      | false =>
          rw [Served.ofPlace, fileAt?_of_find? he, FileSystem.hasDirectory, he]
          simp only [Option.any_some, hdir, Bool.and_false]
          obtain ⟨node, mode⟩ := e
          cases node with
          | file content modified => exact Or.inl (.file ⟨p, _, content, modified, false⟩ rfl)
          | _ => exact hmissing
  | null part hpart hcontains => exact Or.inr ⟨rfl, Or.inl ⟨part, hpart, hcontains⟩⟩
  | refused e hinside hfits hrefuses =>
      refine Or.inr ⟨?_, Or.inr ⟨hinside, hfits⟩⟩
      rcases hrefuses with rfl | rfl <;> rfl

/-- Where the system takes all paths in question, what is served is made of a path below the mount. -/
theorem content_madeOf (h : a.StandsAt v top) {p : Path} {place : Location}
    (hnull : ∀ part ∈ p, part.contains '\x00' = false) (hne : p ≠ [])
    (hplace : p.foldl Path.enter top = place)
    (hfits : top <+: place → Location.Fits place)
    (hpages : a.settings.htmlIndex = true →
      (top <+: place → Location.Fits (place ++ [indexName])) ∧
        Location.Fits (top ++ [missingName])) :
    (Served.ofPath v.files a.settings.htmlIndex (r.path.endsWith ['/'])
      (Site.beginsWithBackslash p) top place).MadeOf r (a.contentMaterial v r p) := by
  have hgives := content_gives (r := r) h hne
  rw [hplace] at hgives
  rcases hgives with (hmade | ⟨e, -, hstumbles⟩) | ⟨-, ⟨part, hpart, hcontains⟩ | ⟨hinside, hnot⟩⟩
  · exact hmade
  · cases hstumbles with
    | index _ hindex hinside _ hnot => exact absurd ((hpages hindex).1 hinside) hnot
    | missing _ hindex hnot => exact absurd (hpages hindex).2 hnot
  · rw [hnull part hpart] at hcontains
    cases hcontains
  · exact absurd (hfits hinside) hnot

end App

/-- A request for what follows the first slash of its path. -/
structure Request.AsksFor (r : Request) (q : Text) : Prop where
  method : r.method = "GET".toList
  rootPath : r.rootPath = []
  path : r.path = '/' :: q
  line : '\n' ∉ q
  notNull : '\x00' ∉ q

namespace App

variable {a : App} {v : Vantage} {top : Location} {r : Request} {q : Text}

/-- The path of the file that is asked for, in the directory of a site at the top. -/
def servedPath (q : Text) : Path :=
  Path.reduce (Path.ofText ('/' :: q))

theorem foldl_enter_servedPath (q : Text) (top : Location) :
    (servedPath q).foldl Path.enter top = (Path.ofText q).foldl Path.enter top := by
  rw [servedPath, Path.foldl_enter_reduce, Path.ofText, Text.splitOn, if_pos rfl, List.foldl_cons,
    Path.enter_of_stays (Or.inl rfl)]
  rfl

theorem notNull_servedPath (h : '\x00' ∉ q) : ∀ part ∈ servedPath q, part.contains '\x00' = false := by
  intro part hpart
  rw [← Bool.not_eq_true, List.contains_iff_mem]
  intro hmem
  rcases Path.mem_reduce hpart with hpart | rfl
  · rcases List.mem_cons.mp (Text.mem_of_mem_splitOn hpart hmem) with hc | hc
    · cases hc
    · exact h hc
  · revert hmem
    decide

/-- A site at the top takes the whole path. -/
theorem material_of_asksFor (hask : r.AsksFor q) (hmount : a.mount = ⟨[]⟩)
    (hroot : Site.checkRoot v a.settings.rootDir = .ok ()) :
    a.material v r = a.contentMaterial v r (servedPath q) := by
  have hroute : routePath r.rootPath r.path = '/' :: q := by
    rw [hask.rootPath, hask.path, routePath, if_pos rfl]
  have hfile : filePath r ('/' :: q) q = servedPath q :=
    filePath_eq (by rw [hask.rootPath, hask.path]; rfl : r.path = r.rootPath ++ ([] ++ '/' :: q))
  rw [material, hroute, hmount, Mount.match?_top hask.line, hroot]
  simp only [ite_self, insideMaterial]
  rw [if_pos (Or.inl hask.method), hfile]

end App

/-! ### What is answered -/

/-- A request that asks for no part of a file and names no version of it. -/
structure Request.Unconditional (r : Request) : Prop where
  range : r.headers.first? "range".toList = none
  noneMatch : r.headers.first? "if-none-match".toList = none
  modifiedSince : r.headers.first? "if-modified-since".toList = none

namespace FileResponse

theorem whole_of_read {v : Vantage} {place : Location} {content : List UInt8}
    (hread : v.read (Location.path place) = .ok content) (d : Description) (status : Status) :
    whole v place d false status = ⟨⟨status, headers d d.kind d.size, content⟩, none⟩ := by
  rw [whole, deliver, if_neg Bool.false_ne_true, hread]
  rfl

/-- The answer to a request without conditions is the whole file. -/
theorem answer_of_unconditional {r : Request} (h : r.Unconditional) (v : Vantage)
    (place : Location) (d : Description) (headOnly : Bool) (boundary : Text) :
    answer v place d headOnly boundary r.headers = whole v place d headOnly .ok := by
  have hcurrent : d.validator.isCurrent r.headers = false := by
    rw [Validator.isCurrent, h.noneMatch, h.modifiedSince]
  rw [answer, hcurrent, if_neg Bool.false_ne_true, h.range]

theorem first?_contentLength (d : Description) (kind : Text) (length : Nat) (rest : Headers) :
    Headers.first? (headers d kind length ++ rest) "content-length".toList =
      some (Text.ofNat length) := by
  rfl

end FileResponse

/-- In a plain tree a source can be read. -/
theorem Source.FoundIn.read_eq {s : Source} {v : Vantage} {root : Path} (h : s.FoundIn v root)
    (hplain : v.Plain) : v.read (Location.path s.place) = .ok s.content := by
  obtain ⟨mode, hstat⟩ := h.entry
  obtain ⟨q, -, hq⟩ := Vantage.find?_of_stat hstat
  rw [Vantage.read, hstat]
  exact if_pos (hplain.allowed _ _ hq).1

namespace Served

/-- What is seen of an answer that serves this. -/
def ShownBy (r : Request) (shown : Text) (answer : Answer) : Served → Prop
  | file content =>
      answer.response.status = .ok ∧ answer.response.body = content ∧
        answer.response.headers.first? "content-length".toList = some (Text.ofNat content.length)
  | redirect => answer.response.status = .temporaryRedirect
  | missing (some page) => answer.response.status = .notFound ∧ answer.response.body = page
  | missing none =>
      answer.response.status = .notFound ∧
        answer.response.body =
          Utf8.encode (Response.refusalText .notFound (App.notFoundMessage r shown))

variable {a : App} {v : Vantage} {top : Location} {r : Request} {q : Text}

/-- A file of which an answer is made can be described and read. -/
theorem read_of_foundIn (hplain : v.Plain) (hkept : v.files.Kept) {root : Path} {s : Source}
    (hfound : s.FoundIn v root) :
    (∃ d, Material.describe s = .ok d ∧ d.size = s.content.length) ∧
      v.read (Location.path s.place) = .ok s.content := by
  refine ⟨?_, hfound.read_eq hplain⟩
  obtain ⟨mode, hstat⟩ := hfound.entry
  obtain ⟨q, -, hq⟩ := Vantage.find?_of_stat hstat
  have hnameable := hkept.nameable hq
  rw [← Validator.ofFile_isOk _ s.content.length] at hnameable
  rw [Material.describe]
  cases hvalidator : Validator.ofFile s.modified s.content.length with
  | error year =>
      rw [hvalidator] at hnameable
      cases hnameable
  | ok validator => exact ⟨_, rfl, rfl⟩

/-- An answer shows what its material serves. -/
theorem MadeOf.shownBy {served : Served} {m : Material} {root : Path} {shown : Text}
    (h : served.MadeOf r m) (hfound : ∀ s, m = .file s → s.FoundIn v root) (hplain : v.Plain)
    (hkept : v.files.Kept) (hmethod : r.method = "GET".toList) (hunconditional : r.Unconditional) {u : Url}
    (hurl : r.url = .ok u) (hshown : r.shownPath = .ok shown) (c : Circumstances) :
    (App.conclude c r (m.result v c.boundary r)).complete = true ∧
      (App.conclude c r (m.result v c.boundary r)).raised = none ∧
      served.ShownBy r shown (App.conclude c r (m.result v c.boundary r)) := by
  have hhead : App.headOnly r = false := by
    rw [App.headOnly, hmethod]
    decide
  cases h with
  | file s hpage =>
      obtain ⟨⟨d, hdescribe, hsize⟩, hread⟩ := read_of_foundIn hplain hkept (hfound s rfl)
      have hresult : (Material.file s).result v c.boundary r =
          .ok ⟨⟨.ok, FileResponse.headers d d.kind d.size, s.content⟩, none⟩ := by
        rw [Material.result, hdescribe, hpage, hhead, Except.map, if_neg Bool.false_ne_true,
          FileResponse.answer_of_unconditional hunconditional, FileResponse.whole_of_read hread]
      rw [hresult, App.conclude, hshown]
      exact ⟨rfl, rfl, rfl, rfl, by rw [← hsize]; exact FileResponse.first?_contentLength _ _ _ _⟩
  | redirect =>
      have hresult : (Material.fixed (App.redirectToDirectory r)).result v c.boundary r =
          .ok ⟨Response.redirect (Url.text { u with path := u.path ++ ['/'] }), none⟩ := by
        rw [Material.result, App.redirectToDirectory, hurl]
      rw [hresult, App.conclude, hshown]
      exact ⟨rfl, rfl, rfl⟩
  | page s hpage =>
      obtain ⟨⟨d, hdescribe, hsize⟩, hread⟩ := read_of_foundIn hplain hkept (hfound s rfl)
      have hresult : (Material.file s).result v c.boundary r =
          .ok ⟨⟨.notFound, FileResponse.headers d d.kind d.size, s.content⟩, none⟩ := by
        rw [Material.result, hdescribe, hpage, hhead, Except.map, if_pos rfl,
          FileResponse.whole_of_read hread]
      rw [hresult, App.conclude, hshown]
      exact ⟨rfl, rfl, rfl, rfl⟩
  | refusal =>
      have hresult : (Material.fixed (App.notFound r)).result v c.boundary r =
          .ok ⟨Response.refusal .notFound [] (App.notFoundMessage r shown), none⟩ := by
        rw [Material.result, App.notFound, hshown]
      rw [hresult, App.conclude, hshown]
      exact ⟨rfl, rfl, rfl, rfl⟩

end Served

namespace App

variable {a : App} {v : Vantage} {top place : Location} {r : Request} {q : Text}

/-- A place of a site that the system takes, with what may be served for it. -/
structure WithinLimits (a : App) (top place : Location) : Prop where
  found : top <+: place → Location.Fits place
  index : a.settings.htmlIndex = true → top <+: place → Location.Fits (place ++ [indexName])
  missing : a.settings.htmlIndex = true → Location.Fits (top ++ [missingName])

end App

/-! ### A small site -/

namespace SmallSite

/-- A directory with an index, and a file whose name begins with a backslash. -/
def files : FileSystem :=
  ⟨[(["pub".toList], ⟨.directory, 0o755⟩),
    (["pub".toList, App.indexName], ⟨.file (Utf8.encode "hello".toList) 0, 0o644⟩),
    (["pub".toList, "\\x".toList], ⟨.file [] 0, 0o644⟩)]⟩

def vantage : Vantage := ⟨files, .superuser, []⟩

def site : App := ⟨Settings.standard "pub".toList, ⟨[]⟩, false⟩

def request (target : String) : Request :=
  ⟨"GET".toList, target.toList, [], some ("testserver".toList, 80), "http".toList, []⟩

theorem standsAt : site.StandsAt vantage ["pub".toList] where
  plain := Vantage.plain_of_isPlain (by decide +kernel)
  root := ⟨⟨.directory, 0o755⟩, by decide +kernel, rfl⟩
  top := by decide +kernel

theorem kept : vantage.files.Kept := by
  decide

theorem unconditional (target : String) : (request target).Unconditional where
  range := rfl
  noneMatch := rfl
  modifiedSince := rfl

theorem plainlyAddressed (target : String) : (request target).PlainlyAddressed :=
  .server "testserver".toList 80 80 (if_pos (Or.inl rfl)) rfl rfl (by decide) (by decide)

theorem asksFor_top : (request "/").AsksFor [] where
  method := rfl
  rootPath := rfl
  path := by decide +kernel
  line := nofun
  notNull := nofun

theorem asksFor_backslash : (request "/%5Cx").AsksFor "\\x".toList where
  method := rfl
  rootPath := rfl
  path := by decide +kernel
  line := by decide
  notNull := by decide

def circumstances : Circumstances := ⟨[], [], []⟩

theorem fits {l : Location} (hnull : l.any (·.contains '\x00') = false)
    (hsize : Utf8.size (Location.text l) ≤ maxPathSize)
    (hshort : ∀ name ∈ l, Utf8.size name ≤ maxNameSize) : Location.Fits l where
  admissible := ⟨(Path.any_null_path l).trans hnull, Location.text_ne_nil l, hsize⟩
  short := hshort

theorem withinLimits_top : site.WithinLimits ["pub".toList] ["pub".toList] where
  found _ := fits (by decide) (by decide) (by decide)
  index _ _ := fits (by decide) (by decide) (by decide)
  missing _ := fits (by decide) (by decide) (by decide)

end SmallSite

end StaticSite
