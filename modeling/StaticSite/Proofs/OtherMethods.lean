import StaticSite.Proofs.LocationText
import StaticSite.Proofs.Queries
import StaticSite.Proofs.Recording

/-! Requests of other methods than the two that a site answers. They are turned away for their path,
before the tree is looked at: below the prefix the method is refused, and elsewhere a request is
redirected to a path below it, if that lacks but a slash, or nothing is found there. So an answer to
them tells nothing of the tree, and nothing of what the site knows of it. -/

namespace StaticSite

/-- A path below a prefix: behind the prefix, without the slashes at its end, come a slash and one
line, at the end of which the path may break. -/
def Mount.Covers (urlPrefix path : Text) : Prop :=
  ∃ rest after, Divides path (trimmed urlPrefix) rest after

/-! ### Locations of other paths -/

namespace Url

variable {tail : Text}

theorem isTail_location (h : IsTail tail) : IsTail (location tail) := by
  rcases h with rfl | ⟨query, rfl⟩
  · exact Or.inl rfl
  · have hmark : location ['?'] = ['?'] := by decide +kernel
    refine Or.inr ⟨location query, ?_⟩
    rw [← List.singleton_append, location_append, hmark]
    rfl

/-- A location at an authority is read again with a query as well. -/
theorem read_location_query {scheme authority : Text} (hscheme : isScheme scheme = true)
    (hauthority : Readable authority) (hchars : ∀ c ∈ authority, isNamingChar c = true) {path : Text}
    (hquestion : '?' ∉ location path) (hhash : '#' ∉ location path) (hslash : path.head? = some '/')
    (query : Text) :
    ∃ u, read (location (text ⟨scheme, authority, path, query, []⟩)) = .ok u ∧
      u.path = location path := by
  have hread := read_tail (isTail_location (isTail_query query))
    (location (text ⟨scheme, authority, path, [], []⟩))
  rw [← location_append, ← text_query,
    read_location hscheme hauthority hchars hquestion hhash hslash] at hread
  cases hwhole : read (location (text ⟨scheme, authority, path, query, []⟩)) with
  | error e =>
      rw [hwhole] at hread
      cases hread
  | ok u =>
      rw [hwhole] at hread
      have hpath := congrArg Url.path (Except.ok.inj hread)
      exact ⟨u, rfl, hpath⟩

theorem rooted_rooted (path : Text) : rooted (rooted path) = rooted path := by
  cases path with
  | nil => rfl
  | cons c rest =>
      by_cases hc : c = '/'
      · rw [hc, rooted_slash, rooted_slash]
      · rw [rooted, if_neg hc, rooted_slash]

end Url

namespace Request

variable {r : Request}

theorem rooted_flatMap (path : Text) :
    Url.rooted (path.flatMap pathChar) = (Url.rooted path).flatMap pathChar := by
  cases path with
  | nil => rfl
  | cons c rest =>
      by_cases hc : c = '/'
      · rw [hc, Url.rooted_slash]
        exact Url.rooted_slash _
      · obtain ⟨d, after, hd, hslash⟩ := exists_pathChar hc
        have hcode : (c :: rest).flatMap pathChar = d :: (after ++ rest.flatMap pathChar) := by
          rw [List.flatMap_cons, hd]
          rfl
        rw [hcode, Url.rooted, if_neg hslash, Url.rooted, if_neg hc, ← hcode]
        rfl

/-- The URL that a located request tells of a path is read as that path, unless it holds a code. -/
theorem Located.read_location (h : r.Located) {path target : Text} (hne : path ≠ [])
    (htold : r.urlText path = .ok target) (hcodes : Percent.holdsCode path = false) :
    ∃ u, Url.read (Url.location target) = .ok u ∧ Percent.decode u.path = Url.rooted path := by
  obtain ⟨hscheme, authority, hreached, hauthority, hchars⟩ := h.exists_authority
  obtain ⟨rest, hrest⟩ := Url.exists_rooted hne
  have htarget : target =
      Url.text ⟨r.scheme, authority, (Url.rooted path).flatMap pathChar, r.query, []⟩ := by
    rw [urlText, hreached] at htold
    cases htold
    rw [Url.text_eq_append _ hauthority.notEmpty, Url.text_eq_append _ hauthority.notEmpty,
      ← rooted_flatMap, Url.rooted_rooted]
  have hkept : Percent.holdsCode (Url.rooted path) = false := by
    cases path with
    | nil => exact absurd rfl hne
    | cons c path =>
        by_cases hc : c = '/'
        · rw [hc, Url.rooted_slash, ← hc, hcodes]
        · rw [Url.rooted, if_neg hc, Percent.holdsCode, hcodes]
          rfl
  have hslash : ((Url.rooted path).flatMap pathChar).head? = some '/' := by
    rw [hrest]
    rfl
  obtain ⟨u, hu, hpath⟩ := Url.read_location_query hscheme hauthority hchars
    (Url.not_mem_location (Or.inl rfl) _) (Url.not_mem_location (Or.inr rfl) _) hslash r.query
  refine ⟨u, by rw [htarget, hu], ?_⟩
  rw [hpath, Url.decode_location hkept]

end Request

/-! ### How a request is turned away -/

namespace App

/-- What comes of a request that is turned away for its path. -/
def turnedAway (a : App) (r : Request) : Except Failure Delivery :=
  match a.mount.match? (routePath r.rootPath r.path) with
  | .error count => .error (.tooManyDigits count)
  | .ok none => outside a r (routePath r.rootPath r.path)
  | .ok (some _) => refuse .methodNotAllowed [("allow".toList, allowed)]

/-- How a request is turned away that is for no path below the prefix: it is redirected to one, the
URL of which a located request tells so that it is read again, or there is nothing for it. -/
inductive TurnsElsewhere (urlPrefix : Text) (r : Request) : Response → Prop
  | redirect (path target : Text) (covers : Mount.Covers urlPrefix (routePath r.rootPath path))
      (told : r.urlText path = .ok target)
      (read : r.Located → Percent.holdsCode path = false →
        ∃ u, Url.read (Url.location target) = .ok u ∧ Percent.decode u.path = Url.rooted path) :
      TurnsElsewhere urlPrefix r (Response.redirect target)
  | refusal (shown : Text) (told : r.shownPath = .ok shown) :
      TurnsElsewhere urlPrefix r (Response.refusal .notFound [] (notFoundMessage r shown))

/-- The refusal of a method that the site does not answer. -/
def methodRefusal : Response :=
  Response.refusal .methodNotAllowed [("allow".toList, allowed)] Status.methodNotAllowed.phrase

end App

/-- An answer by which a request is turned away, refused for its method exactly below the prefix. -/
structure Answer.TurnsAway (urlPrefix : Text) (c : Circumstances) (r : Request) (x : Answer) : Prop where
  raised : x.raised = none
  complete : x.complete = true
  below : Mount.Covers urlPrefix (App.routePath r.rootPath r.path) →
    x.response = App.methodRefusal.timed c
  elsewhere : ¬ Mount.Covers urlPrefix (App.routePath r.rootPath r.path) →
    ∃ response, App.TurnsElsewhere urlPrefix r response ∧ x.response = response.timed c

namespace App

variable {a : App} {v : Vantage} {r : Request}

/-- Past the check of the directory, other methods are turned away without a look at the tree. -/
theorem handle_of_other (hget : r.method ≠ "GET".toList) (hhead : r.method ≠ "HEAD".toList)
    (hroot : a.rootChecked = true ∨ v.HasDirectory a.settings.rootDir) (c : Circumstances) :
    (a.handle v c r).2 = conclude c r (a.turnedAway r) := by
  have hinside : ∀ route rest, a.insideMaterial v r route rest =
      .fixed (refuse .methodNotAllowed [("allow".toList, allowed)]) := by
    intro route rest
    rw [insideMaterial, if_neg]
    rintro (h | h)
    · exact hget h
    · exact hhead (by simpa [headOnly] using h)
  have hresult : (a.material v r).result v c.boundary r = a.turnedAway r := by
    simp only [material, turnedAway, hinside]
    cases a.mount.match? (routePath r.rootPath r.path) with
    | error count => rfl
    | ok found =>
        cases found with
        | none => rfl
        | some rest =>
            rcases hroot with hknown | hthere
            · simp only [hknown, if_true]
              rfl
            · simp only [Site.checkRoot_eq_ok_iff.mpr hthere, ite_self]
              rfl
  rw [handle_snd, hresult]

theorem routePath_nil (rootPath : Text) : routePath rootPath [] = [] := by
  cases rootPath <;> rfl

variable {urlPrefix : Text} (hmount : a.mount = ⟨(Mount.trimmed urlPrefix).map .literal⟩)
  (hlegible : r.Legible)

include hmount hlegible

theorem turnsElsewhere_of_outside (route : Text) :
    ∃ response, TurnsElsewhere urlPrefix r response ∧ outside a r route = .ok ⟨response, none⟩ := by
  obtain ⟨shown, hshown⟩ := Request.legible_iff_shownPath.mp hlegible
  have hnothing : ∃ response, TurnsElsewhere urlPrefix r response ∧
      notFound r = .ok ⟨response, none⟩ :=
    ⟨_, .refusal shown hshown, by rw [notFound, hshown]⟩
  unfold outside
  split
  · exact hnothing
  · generalize otherSlash route r.path = path
    simp only
    split
    · rename_i count hcount
      rw [hmount, Mount.match?_literal] at hcount
      cases hcount
    · exact hnothing
    · rename_i rest htaken
      obtain ⟨target, htarget⟩ := hlegible.exists_urlText path
      rw [hmount, Mount.match?_literal_iff] at htaken
      have hne : path ≠ [] := by
        rintro rfl
        obtain ⟨after, hdivides⟩ := htaken
        have hwhole := hdivides.whole
        rw [routePath_nil] at hwhole
        exact List.append_ne_nil_of_right_ne_nil _ (List.cons_ne_nil _ _) hwhole.symm
      refine ⟨_, .redirect path target ⟨rest, htaken⟩ htarget
        (fun hlocated => hlocated.read_location hne htarget), ?_⟩
      rw [htarget]

theorem turnsAway_of_legible (c : Circumstances) :
    (conclude c r (a.turnedAway r)).TurnsAway urlPrefix c r := by
  obtain ⟨shown, hshown⟩ := Request.legible_iff_shownPath.mp hlegible
  have hcovers : ∀ rest, a.mount.match? (routePath r.rootPath r.path) = .ok (some rest) ↔
      ∃ after, Mount.Divides (routePath r.rootPath r.path) (Mount.trimmed urlPrefix) rest after := by
    intro rest
    rw [hmount, Mount.match?_literal_iff]
  cases hmatch : a.mount.match? (routePath r.rootPath r.path) with
  | error count =>
      rw [hmount, Mount.match?_literal] at hmatch
      cases hmatch
  | ok found =>
      cases found with
      | none =>
          have hnone : ¬ Mount.Covers urlPrefix (routePath r.rootPath r.path) := by
            rintro ⟨rest, hdivides⟩
            have hfound := (hcovers rest).mpr hdivides
            rw [hmatch] at hfound
            cases hfound
          obtain ⟨response, helsewhere, houtside⟩ :=
            turnsElsewhere_of_outside hmount hlegible (routePath r.rootPath r.path)
          have haway : a.turnedAway r = .ok ⟨response, none⟩ := by
            rw [turnedAway, hmatch]
            exact houtside
          rw [haway, conclude_of_ok hshown]
          exact ⟨rfl, rfl, fun h => absurd h hnone, fun _ => ⟨response, helsewhere, rfl⟩⟩
      | some rest =>
          have hcovered : Mount.Covers urlPrefix (routePath r.rootPath r.path) :=
            ⟨rest, (hcovers rest).mp hmatch⟩
          have haway : a.turnedAway r = .ok ⟨methodRefusal, none⟩ := by
            rw [turnedAway, hmatch]
            rfl
          rw [haway, conclude_of_ok hshown]
          exact ⟨rfl, rfl, fun _ => rfl, fun h => absurd hcovered h⟩

omit hmount hlegible

/-- A request of another method is answered alike in any two states in which the directory is there or
has been found before, and leaves the tree as it is. If its path can be told, as it can where the host
is known, the method is refused exactly below the prefix; elsewhere the request is redirected to a path
below it, or nothing is found. -/
theorem turns_away {s : Settings} {fresh : App} (hcreate : create s = .ok fresh)
    (hbraces : '{' ∉ s.urlPrefix) (hget : r.method ≠ "GET".toList) (hhead : r.method ≠ "HEAD".toList)
    (c : Circumstances) :
    (∀ known v known' v', (known = true ∨ v.HasDirectory s.rootDir) →
      (known' = true ∨ v'.HasDirectory s.rootDir) →
        (({ fresh with rootChecked := known } : App).handle v c r).2 =
          (({ fresh with rootChecked := known' } : App).handle v' c r).2) ∧
    (r.Legible → ∀ known v, (known = true ∨ v.HasDirectory s.rootDir) →
      (({ fresh with rootChecked := known } : App).handle v c r).2.TurnsAway s.urlPrefix c r) ∧
    (r.Located → r.Legible) ∧
    ∀ stage : Stage, (step c stage (.request r)).1.vantage = stage.vantage := by
  obtain ⟨rfl, -⟩ := of_create hcreate
  have hmount := Mount.eq_of_ofPrefix (mount_of_create hcreate) hbraces
  have haway : ∀ known v, (known = true ∨ v.HasDirectory fresh.settings.rootDir) →
      (({ fresh with rootChecked := known } : App).handle v c r).2 =
        conclude c r (fresh.turnedAway r) := by
    intro known v hroot
    exact handle_of_other (a := { fresh with rootChecked := known }) hget hhead hroot c
  refine ⟨fun known v known' v' hroot hroot' => ?_, fun hlegible known v hroot => ?_,
    Request.Located.legible, fun stage => ?_⟩
  · rw [haway known v hroot, haway known' v' hroot']
  · rw [haway known v hroot]
    exact turnsAway_of_legible hmount hlegible c
  · exact (step_fst stage (.request r)).1

end App

/-! ### Sites that are written to -/

namespace WrittenSite

open PassingRoot

/-- A request that asks a server to write something. -/
def put (target : String) : Request :=
  { get target with method := "PUT".toList, server := some ("testserver".toList, 80) }

def below (urlPrefix : String) : Settings :=
  { settings with urlPrefix := urlPrefix.toList }

def siteBelow (urlPrefix : String) : App :=
  ⟨below urlPrefix, ⟨urlPrefix.toList.map .literal⟩, false⟩

/-- A tree in which the directory of the site is gone. -/
def bare : Vantage :=
  ⟨⟨[]⟩, .superuser, []⟩

/-- The method is refused for a file that is there, as it is where the directory is gone. -/
theorem turns_away_written :
    let known := ({ siteBelow "/p" with rootChecked := true } : App)
    let new := ({ siteBelow "/p" with rootChecked := false } : App)
    let request := put "/p/index.html"
    (new.handle vantage circumstances request).2 = (known.handle bare circumstances request).2 ∧
      (new.handle vantage circumstances request).2.TurnsAway "/p".toList circumstances request ∧
      (new.handle vantage circumstances request).2.response.status = .methodNotAllowed := by
  intro known new request
  have hcreate : App.create (below "/p") = .ok (siteBelow "/p") := by decide +kernel
  have hbraces : '{' ∉ (below "/p").urlPrefix := by decide +kernel
  have hget : request.method ≠ "GET".toList := by decide +kernel
  have hhead : request.method ≠ "HEAD".toList := by decide +kernel
  have hthere : vantage.HasDirectory (below "/p").rootDir :=
    ⟨⟨.directory, 0o755⟩, by decide +kernel, rfl⟩
  have hlocated : request.Located :=
    .server "testserver".toList 80 80 rfl (by decide) (if_pos (Or.inl rfl))
  obtain ⟨hsame, haway, hlegible, -⟩ :=
    App.turns_away hcreate hbraces hget hhead circumstances
  exact ⟨hsame false vantage true bare (Or.inr hthere) (Or.inl rfl),
    haway (hlegible hlocated) false vantage (Or.inr hthere), by decide +kernel⟩

/-- Not so where what follows the prefix is no line, where the prefix holds a code, which the location
of a redirect takes for what it stands for, and where the name of a server is none. -/
theorem not_turns_away :
    vantage.HasDirectory settings.rootDir ∧
      (App.create settings = .ok site ∧ (put "/x%0Ay").path = "/x\ny".toList ∧
        (site.handle vantage circumstances (put "/x%0Ay")).2.response.status = .notFound) ∧
      (App.create (below "/p%41") = .ok (siteBelow "/p%41") ∧
        ((siteBelow "/p%41").handle vantage circumstances
          (put "/p%2541")).2.response.headers.values "location".toList =
            ["http://testserver/p%41/".toList] ∧
        Percent.decode "/p%41/".toList = "/pA/".toList ∧
        ((siteBelow "/p%41").handle vantage circumstances (put "/p%41/")).2.response.status =
          .notFound) ∧
      (site.handle vantage circumstances
        { put "/x" with server := some (['['], 80) }).2.response.status = .internalError := by
  have hthere : vantage.HasDirectory settings.rootDir :=
    ⟨⟨.directory, 0o755⟩, by decide +kernel, rfl⟩
  exact ⟨hthere, ⟨by decide +kernel, by decide +kernel, by decide +kernel⟩,
    ⟨by decide +kernel, by decide +kernel, by decide +kernel, by decide +kernel⟩, by decide +kernel⟩

end WrittenSite

end StaticSite
