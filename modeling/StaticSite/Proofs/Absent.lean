import StaticSite.Proofs.Legible
import StaticSite.Proofs.Serving

/-! What is answered where nothing is there. Below a prefix and for whatever headers, a request for a
path of a plain tree that leads to nothing which is sent is answered with the status that tells so,
whether or not there is a page for this case, and no other request is. The path that is looked up is
the rest of the path of the request, as long as that does not end in a line break. -/

namespace StaticSite

/-! ### The statuses of what is sent -/

namespace FileResponse

variable {v : Vantage} {place : Location} {d : Description} {headOnly : Bool} {boundary : Text}

theorem status_deliver (status : Status) (headers : Headers) (body : List UInt8 → List UInt8) :
    (deliver v place headOnly status headers body).response.status = status := by
  unfold deliver
  split
  · rfl
  · split <;> rfl

theorem status_whole (status : Status) : (whole v place d headOnly status).response.status = status :=
  status_deliver _ _ _

/-- The statuses with which a file that is there is answered. -/
def statuses : List Status :=
  [.ok, .partialContent, .notModified, .badRequest, .rangeNotSatisfiable]

theorem status_parts_mem (ranges : List ByteRange) :
    (parts v place d headOnly boundary ranges).response.status ∈ statuses := by
  unfold parts
  split
  · rw [status_whole]
    decide
  · rw [status_deliver]
    decide
  · rw [status_deliver]
    decide

theorem status_answer_mem (request : Headers) :
    (answer v place d headOnly boundary request).response.status ∈ statuses := by
  have hwhole : (whole v place d headOnly .ok).response.status ∈ statuses := by
    rw [status_whole]
    decide
  unfold answer
  split
  · show Status.notModified ∈ statuses
    decide
  split
  · exact hwhole
  split
  · split
    · exact status_parts_mem _
    · unfold refuseRange
      split
      · show Status.rangeNotSatisfiable ∈ statuses
        decide
      · show Status.badRequest ∈ statuses
        decide
  · exact hwhole

theorem status_answer_ne {status : Status} (h : status ∉ statuses) (request : Headers) :
    (answer v place d headOnly boundary request).response.status ≠ status :=
  fun hstatus => h (hstatus ▸ status_answer_mem request)

end FileResponse

namespace Served

variable {r : Request} {c : Circumstances}

/-- What an answer tells by its status: that nothing is there, exactly where that is served. -/
theorem MadeOf.status_iff {served : Served} {m : Material} (h : served.MadeOf r m) {v : Vantage}
    (hanswered : (App.conclude c r (m.result v c.boundary r)).raised = none) :
    (App.conclude c r (m.result v c.boundary r)).response.status = .notFound ↔
      ∃ page, served = .missing page := by
  cases hshown : r.shownPath with
  | error u =>
      rw [App.conclude_of_error hshown] at hanswered
      cases hanswered
  | ok shown =>
      have hlegible := Request.legible_iff_shownPath.mpr ⟨shown, hshown⟩
      cases h with
      | file s hpage =>
          rw [Material.result] at hanswered ⊢
          cases hdescribe : Material.describe s with
          | error e =>
              rw [hdescribe] at hanswered
              simp only [Except.map, App.conclude, hshown] at hanswered
              cases hanswered
          | ok d =>
              simp only [Except.map, App.conclude, hshown, hpage, Bool.false_eq_true, if_false]
              exact iff_of_false (FileResponse.status_answer_ne (by decide) _) (by simp)
      | redirect =>
          obtain ⟨u, hu⟩ := hlegible
          simp only [Material.result, App.redirectToDirectory, hu, App.conclude, hshown]
          exact iff_of_false (by simp [Response.redirect]) (by simp)
      | page s hpage =>
          rw [Material.result] at hanswered ⊢
          cases hdescribe : Material.describe s with
          | error e =>
              rw [hdescribe] at hanswered
              simp only [Except.map, App.conclude, hshown] at hanswered
              cases hanswered
          | ok d =>
              simp only [Except.map, App.conclude, hshown, hpage, if_true]
              exact iff_of_true (FileResponse.status_whole .notFound) ⟨_, rfl⟩
      | refusal =>
          simp only [Material.result, App.notFound, App.conclude, hshown]
          exact iff_of_true rfl ⟨_, rfl⟩

/-- Whether something is sent for a place: it is a regular file, or where there are pages a directory
with an index. -/
def Present (fs : FileSystem) (htmlIndex : Bool) (place : Location) : Prop :=
  (∃ content, fs.fileAt? place = some content) ∨
    htmlIndex = true ∧ fs.hasDirectory place = true ∧
      ∃ content, fs.fileAt? (place ++ [App.indexName]) = some content

theorem absent_eq (fs : FileSystem) (htmlIndex : Bool) (top : Location) :
    ∃ page, absent fs htmlIndex top = .missing page :=
  ⟨_, rfl⟩

/-- Nothing is served exactly where nothing is sent for the place of a path that is looked up. -/
theorem ofPath_eq_missing_iff (fs : FileSystem) (htmlIndex slash backslash : Bool)
    (top place : Location) :
    (∃ page, ofPath fs htmlIndex slash backslash top place = .missing page) ↔
      ¬ (backslash = false ∧ top <+: place ∧ Present fs htmlIndex place) := by
  have habsent := absent_eq fs htmlIndex top
  rw [ofPath]
  split
  · rename_i hlooked
    rw [Bool.and_eq_true, List.isPrefixOf_iff_prefix, Bool.not_eq_true'] at hlooked
    simp only [hlooked.1, hlooked.2, true_and, Present, ofPlace]
    cases hfile : fs.fileAt? place with
    | some content => simp
    | none =>
        cases hindex : htmlIndex && fs.hasDirectory place with
        | false =>
            rw [Bool.and_eq_false_iff] at hindex
            simp only [Bool.false_eq_true, if_false]
            refine iff_of_true habsent ?_
            rintro (⟨content, hcontent⟩ | ⟨hshown, hhas, -⟩)
            · cases hcontent
            · rcases hindex with hindex | hindex
              · rw [hshown] at hindex
                cases hindex
              · rw [hhas] at hindex
                cases hindex
        | true =>
            rw [Bool.and_eq_true] at hindex
            simp only [if_true]
            cases hpage : fs.fileAt? (place ++ [App.indexName]) with
            | some content =>
                refine iff_of_false ?_ (not_not.mpr (Or.inr ⟨hindex.1, hindex.2, content, rfl⟩))
                cases slash <;> simp
            | none =>
                refine iff_of_true habsent ?_
                rintro (⟨content, hcontent⟩ | ⟨-, -, content, hcontent⟩)
                · cases hcontent
                · cases hcontent
  · rename_i hnot
    refine iff_of_true habsent fun h => hnot ?_
    rw [h.1, List.isPrefixOf_iff_prefix.mpr h.2.1]
    rfl

end Served

/-- The path that is looked up for a request, given what follows the mount: the rest as it is. A line
break at the end is no part of the rest; then the rest is looked up with the break, but only if it
begins with a slash, and otherwise the whole path of the request is. -/
def Request.sought (r : Request) (rest : Text) : Text :=
  if r.decoded.endsWith ['\n'] then
    if rest.head? = some '/' then rest ++ ['\n'] else r.path
  else rest

namespace App

variable {a : App} {v : Vantage} {top : Location} {r : Request} {rest : Text}

theorem reduce_ofText_slash (q : Text) :
    Path.reduce (Path.ofText ('/' :: q)) = Path.reduce (Path.ofText q) := by
  rw [Path.ofText, Text.splitOn, if_pos rfl]
  rfl

/-- The file of a request is that of the path which is looked up for it. -/
theorem filePath_sought {before after : Text} (h : Mount.Divides r.decoded before rest after) :
    filePath r r.decoded rest = Path.reduce (Path.ofText (r.sought rest)) := by
  have hpath : r.path = r.rootPath ++ r.decoded := rfl
  rcases h.closing with rfl | rfl
  · have hwhole : r.decoded = before ++ '/' :: rest := by
      rw [h.whole, List.append_nil]
    have hends : r.decoded.endsWith ['\n'] = false := by
      rw [← Bool.not_eq_true, hwhole, Text.endsWith_append_cons]
      intro hends
      refine h.line ((List.mem_cons.mp (Text.mem_of_endsWith hends)).resolve_left (by decide))
    rw [Request.sought, hends, if_neg Bool.false_ne_true, hwhole,
      filePath_eq (hpath.trans (congrArg (r.rootPath ++ ·) hwhole)), reduce_ofText_slash]
  · have hends : r.decoded.endsWith ['\n'] = true := by
      have hlast : r.decoded = (before ++ '/' :: rest) ++ '\n' :: [] := by
        rw [h.whole, List.append_assoc, List.cons_append]
      rw [hlast, Text.endsWith_append_cons]
      rfl
    rw [Request.sought, hends, if_pos rfl, h.whole]
    exact filePath_break (hpath.trans (congrArg (r.rootPath ++ ·) h.whole))

/-- A path of a site that leads to something which is sent, and that the system takes. -/
structure Leads (a : App) (v : Vantage) (top : Location) (p : Path) : Prop where
  looked : Site.beginsWithBackslash p = false
  clean : ∀ part ∈ p, part.contains '\x00' = false
  inside : top <+: p.foldl Path.enter top
  fits : Location.Fits (p.foldl Path.enter top)
  present : Served.Present v.files a.settings.htmlIndex (p.foldl Path.enter top)

theorem find?_of_present {htmlIndex : Bool} {place : Location}
    (h : Served.Present v.files htmlIndex place) : v.files.find? place ≠ none := by
  intro hnone
  rcases h with ⟨content, hcontent⟩ | ⟨-, hhas, -⟩
  · rw [fileAt?_of_none hnone] at hcontent
    cases hcontent
  · rw [FileSystem.hasDirectory, hnone] at hhas
    cases hhas

/-- Where the system does not take the path of something that is there, the request is refused. -/
theorem content_of_not_taken (h : a.StandsAt v top) {p : Path}
    (hlooked : Site.beginsWithBackslash p = false) (hinside : top <+: p.foldl Path.enter top)
    (hpresent : v.files.find? (p.foldl Path.enter top) ≠ none)
    (hnot : ¬ ((∀ part ∈ p, part.contains '\x00' = false) ∧
      Location.Fits (p.foldl Path.enter top))) :
    a.contentMaterial v r p = .fixed (notFound r) := by
  have hends := h.lookup_ends p
  rw [contentMaterial]
  generalize Site.lookup v a.rootPath p = result at hends ⊢
  cases hends with
  | outside houtside =>
      rcases houtside with hbackslash | houtside
      · rw [hlooked] at hbackslash
        cases hbackslash
      · exact absurd hinside houtside
  | absent _ he => exact absurd he hpresent
  | found e _ _ hclean hfits _ => exact absurd ⟨hclean, hfits⟩ hnot
  | null => rfl
  | refused e _ _ hrefuses => rcases hrefuses with rfl | rfl <;> rfl

/-- What is made of a request for a path of a site that is there. -/
theorem material_below (h : a.StandsAt v top)
    (hmatch : a.mount.match? (routePath r.rootPath r.path) = .ok (some rest))
    (hmethod : r.method = "GET".toList ∨ headOnly r = true) :
    a.material v r = a.contentMaterial v r (filePath r (routePath r.rootPath r.path) rest) := by
  rw [material, hmatch, h.checkRoot_eq]
  simp only [ite_self, insideMaterial]
  exact if_pos hmethod

theorem conclude_notFound_status {shown : Text} (hshown : r.shownPath = .ok shown)
    (c : Circumstances) : (conclude c r (notFound r)).response.status = .notFound := by
  simp only [notFound, conclude, hshown]
  rfl

/-- A path of a site is answered with the status for what is not there exactly where it leads to nothing
which is sent. -/
theorem content_status_iff (h : a.StandsAt v top) {p : Path} (hne : p ≠ []) {c : Circumstances}
    (hanswered : (conclude c r ((a.contentMaterial v r p).result v c.boundary r)).raised = none) :
    (conclude c r ((a.contentMaterial v r p).result v c.boundary r)).response.status = .notFound ↔
      ¬ a.Leads v top p := by
  obtain ⟨shown, hshown⟩ : ∃ shown, r.shownPath = .ok shown := by
    cases hshown : r.shownPath with
    | ok shown => exact ⟨shown, rfl⟩
    | error u =>
        rw [conclude_of_error hshown] at hanswered
        cases hanswered
  have hleads : a.Leads v top p ↔
      ((∀ part ∈ p, part.contains '\x00' = false) ∧ Location.Fits (p.foldl Path.enter top)) ∧
        Site.beginsWithBackslash p = false ∧ top <+: p.foldl Path.enter top ∧
          Served.Present v.files a.settings.htmlIndex (p.foldl Path.enter top) :=
    ⟨fun h => ⟨⟨h.clean, h.fits⟩, h.looked, h.inside, h.present⟩,
      fun h => ⟨h.2.1, h.1.1, h.2.2.1, h.1.2, h.2.2.2⟩⟩
  rw [hleads]
  rcases content_gives (r := r) h hne with (hmade | ⟨e, he, -⟩) | ⟨hrefused, hnot⟩
  · -- What is there is taken, since otherwise it would be refused and not served.
    have htaken : Site.beginsWithBackslash p = false ∧ top <+: p.foldl Path.enter top ∧
        Served.Present v.files a.settings.htmlIndex (p.foldl Path.enter top) →
        (∀ part ∈ p, part.contains '\x00' = false) ∧ Location.Fits (p.foldl Path.enter top) := by
      intro hserved
      refine Classical.byContradiction fun hnot => ?_
      have hrefused := content_of_not_taken (r := r) h hserved.1 hserved.2.1
        (find?_of_present hserved.2.2) hnot
      have hstatus : (conclude c r
          ((a.contentMaterial v r p).result v c.boundary r)).response.status = .notFound := by
        rw [hrefused]
        exact conclude_notFound_status hshown c
      have hmissing := (hmade.status_iff hanswered).mp hstatus
      exact (Served.ofPath_eq_missing_iff _ _ _ _ _ _).mp hmissing hserved
    rw [hmade.status_iff hanswered, Served.ofPath_eq_missing_iff]
    exact not_congr ⟨fun hserved => ⟨htaken hserved, hserved⟩, fun hserved => hserved.2⟩
  · rw [he] at hanswered
    simp only [Material.result, conclude, hshown] at hanswered
    cases hanswered
  · rw [hrefused]
    refine iff_of_true (conclude_notFound_status hshown c) ?_
    rintro ⟨⟨hclean, hfits⟩, -⟩
    rcases hnot with ⟨part, hpart, hcontains⟩ | ⟨-, hnot⟩
    · rw [hclean part hpart] at hcontains
      cases hcontains
    · exact hnot hfits

/-- If a request for a path below a prefix is answered at all, it is answered with the status for what
is not there exactly where the path that is looked up leads to nothing which is sent, whatever its
headers ask for. -/
theorem status_notFound_iff (hsite : a.StandsAt v top)
    (hmount : Mount.ofPrefix a.settings.urlPrefix = .ok a.mount)
    (hmethod : r.method = "GET".toList ∨ headOnly r = true)
    (hmatch : a.mount.match? r.decoded = .ok (some rest)) (c : Circumstances)
    (hanswered : (a.handle v c r).2.raised = none) :
    (a.handle v c r).2.response.status = .notFound ↔
      ¬ a.Leads v top (Path.reduce (Path.ofText (r.sought rest))) := by
  obtain ⟨path, hpath⟩ := Mount.exists_cons_of_match? hmount hmatch
  obtain ⟨before, after, hdivides⟩ := Mount.divides_of_match? hmatch
  have hroute := routePath_decoded hpath
  have hmaterial := material_below hsite (hroute.symm ▸ hmatch) hmethod
  rw [hroute, filePath_sought hdivides] at hmaterial
  rw [handle_snd, hmaterial] at hanswered ⊢
  exact content_status_iff hsite (Path.reduce_ne_nil _) hanswered

end App

/-! ### A name that ends in a line break -/

namespace BrokenLine

open SmallSite

def site : App :=
  ⟨{ SmallSite.site.settings with urlPrefix := "/p".toList }, ⟨[.literal '/', .literal 'p']⟩, false⟩

/-- A directory with the name of the prefix, and in it a file of which the name ends in a line break. -/
def vantage : Vantage :=
  ⟨⟨[(["pub".toList], ⟨.directory, 0o755⟩), (["pub".toList, ['p']], ⟨.directory, 0o755⟩),
    (["pub".toList, ['p'], ['x', '\n']], ⟨.file [] 0, 0o644⟩)]⟩, .superuser, []⟩

theorem standsAt : site.StandsAt vantage ["pub".toList] where
  plain := Vantage.plain_of_isPlain (by decide +kernel)
  root := ⟨⟨.directory, 0o755⟩, by decide +kernel, rfl⟩
  top := by decide +kernel

/-- Below the prefix the path is that of a file which is not there, with the line break or without.
Yet a file is sent, since the whole path leads to one. -/
theorem leads_whole_path :
    (site.handle vantage circumstances (request "/p/x%0A")).2.response.status = .ok ∧
      site.Leads vantage ["pub".toList] (Path.reduce (Path.ofText (request "/p/x%0A").path)) ∧
      vantage.files.find? ["pub".toList, ['x']] = none ∧
      vantage.files.find? ["pub".toList, ['x', '\n']] = none := by
  have hmount : Mount.ofPrefix site.settings.urlPrefix = .ok site.mount := by
    decide +kernel
  have hmatch : site.mount.match? (request "/p/x%0A").decoded = .ok (some ['x']) := by
    decide +kernel
  have hanswered : (site.handle vantage circumstances (request "/p/x%0A")).2.raised = none := by
    decide +kernel
  have hstatus : (site.handle vantage circumstances (request "/p/x%0A")).2.response.status = .ok := by
    decide +kernel
  have hsought : (request "/p/x%0A").sought ['x'] = (request "/p/x%0A").path := by
    decide +kernel
  have hiff := App.status_notFound_iff standsAt hmount (Or.inl rfl) hmatch circumstances hanswered
  rw [hsought, hstatus] at hiff
  refine ⟨hstatus, Classical.byContradiction fun hnot => ?_, rfl, rfl⟩
  cases hiff.mpr hnot

end BrokenLine

end StaticSite
