import StaticSite.Proofs.OtherHeaders
import StaticSite.Proofs.Redirects

/-! Requests that differ in their queries. A query follows the path in the URL of a request, which is
put together and read again; neither the path that is read nor what fails depends on what follows, so
the query shows only in the location of a redirect, behind the path. Together with the headers that
are heeded, the path is then all of a request that its answer tells. -/

namespace StaticSite

namespace Url

/-! ### What follows a path -/

/-- What may follow a path: nothing, or a query. -/
def IsTail (t : Text) : Prop :=
  t = [] ∨ ∃ query, t = '?' :: query

theorem isTail_query (query : Text) : IsTail (if query = [] then [] else '?' :: query) := by
  split
  · exact Or.inl rfl
  · exact Or.inr ⟨query, rfl⟩

/-- A URL without its query and what follows that. -/
def bare (u : Url) : Url :=
  { u with query := [], fragment := [] }

variable {tail : Text}

theorem IsTail.filter (h : IsTail tail) : IsTail (tail.filter (!isDropped ·)) := by
  rcases h with rfl | ⟨query, rfl⟩
  · exact Or.inl rfl
  · exact Or.inr ⟨_, List.filter_cons_of_pos (by decide)⟩

theorem counted_tail (h : IsTail tail) (t : Text) :
    counted (t ++ tail) = counted t ++ tail.filter (!isDropped ·) := by
  have hkept : tail.dropWhile (fun c => c.toNat ≤ 0x20) = tail := by
    rcases h with rfl | ⟨query, rfl⟩
    · rfl
    · exact List.dropWhile_cons_of_neg (by decide)
  rw [counted, counted, List.dropWhile_append, hkept]
  split
  · rename_i hempty
    rw [List.isEmpty_iff.mp hempty]
    rfl
  · rw [List.filter_append]

theorem cutScheme_of_mem {t before after : Text} (hcut : Text.cutFirst? ':' t = some (before, after))
    {c : Char} (hc : c ∈ before) (hother : isSchemeChar c = false) : cutScheme t = ([], t) := by
  have hall : before.all isSchemeChar = false := by
    rw [List.all_eq_false]
    exact ⟨c, hc, by rw [hother]; decide⟩
  rw [cutScheme, hcut]
  cases before with
  | nil => rfl
  | cons first scheme =>
      simp only [hall, Bool.and_false]
      rfl

/-- No colon behind a path ends a scheme. -/
theorem cutScheme_tail (h : IsTail tail) (t : Text) :
    cutScheme (t ++ tail) = ((cutScheme t).1, (cutScheme t).2 ++ tail) := by
  by_cases hcolon : ':' ∈ t
  · obtain ⟨⟨before, after⟩, hcut⟩ := Text.exists_cutFirst?_of_mem hcolon
    rw [cutScheme, cutScheme, Text.cutFirst?_append_of_some hcut, hcut]
    cases before with
    | nil => rfl
    | cons c scheme =>
        simp only
        split <;> rfl
  · have hnone : cutScheme t = ([], t) := by rw [cutScheme, Text.cutFirst?_of_not_mem hcolon]
    rw [hnone]
    rcases h with rfl | ⟨query, rfl⟩
    · rw [List.append_nil, hnone]
    · have hfront : ':' ∉ t ++ ['?'] := by simpa using hcolon
      have hsplit : t ++ '?' :: query = (t ++ ['?']) ++ query := by simp
      rw [hsplit]
      cases hcut : Text.cutFirst? ':' query with
      | none => rw [cutScheme, Text.cutFirst?_append hfront, hcut]; rfl
      | some parts =>
          have hwhole := Text.cutFirst?_append hfront query
          rw [hcut] at hwhole
          exact cutScheme_of_mem hwhole (c := '?') (by simp) (by decide)

theorem cutAuthority_tail (h : IsTail tail) (t : Text) :
    cutAuthority (t ++ tail) = ((cutAuthority t).1, (cutAuthority t).2 ++ tail) := by
  by_cases hslashes : ∃ rest, t = '/' :: '/' :: rest
  · obtain ⟨rest, rfl⟩ := hslashes
    have hparts := List.takeWhile_append_dropWhile (p := (!endsAuthority ·)) (l := rest)
    have hchars : ∀ c ∈ rest.takeWhile (!endsAuthority ·), endsAuthority c = false := by
      intro c hc
      simpa using List.all_eq_true.mp List.all_takeWhile c hc
    have hends : (rest.dropWhile (!endsAuthority ·) ++ tail).takeWhile (!endsAuthority ·) = [] := by
      cases hrest : rest.dropWhile (!endsAuthority ·) with
      | nil =>
          rcases h with rfl | ⟨query, rfl⟩
          · rfl
          · exact List.takeWhile_cons_of_neg (by decide)
      | cons c after =>
          have hc : ¬ (!endsAuthority c) = true := by
            have := List.head?_dropWhile_not (!endsAuthority ·) rest
            rw [hrest] at this
            simpa using this
          exact List.takeWhile_cons_of_neg hc
    have hwhole := cutAuthority_append_of_ends hchars hends
    rw [← List.append_assoc, hparts] at hwhole
    exact hwhole
  · have hnone : cutAuthority t = ([], t) := by
      unfold cutAuthority
      split
      · exact absurd ⟨_, rfl⟩ hslashes
      · rfl
    rw [hnone]
    unfold cutAuthority
    split
    · rename_i rest heq
      exfalso
      apply hslashes
      match t with
      | [] => rcases h with rfl | ⟨query, rfl⟩ <;> cases heq
      | [c] => rcases h with rfl | ⟨query, rfl⟩ <;> simp at heq
      | c :: d :: after =>
          simp only [List.cons_append, List.cons.injEq] at heq
          exact ⟨after, by rw [heq.1, heq.2.1]⟩
    · rfl

/-- A path ends where a query or a fragment begins. -/
theorem cutPath_tail (h : IsTail tail) (t : Text) :
    (cutAt '?' (cutAt '#' (t ++ tail)).1).1 = (cutAt '?' (cutAt '#' t).1).1 := by
  by_cases hhash : '#' ∈ t
  · rw [cutAt_append_of_mem hhash]
  · have hbefore : (cutAt '#' (t ++ tail)).1 = t ∨ ∃ query, (cutAt '#' (t ++ tail)).1 = t ++ '?' :: query := by
      rw [cutAt_append hhash]
      rcases h with rfl | ⟨query, rfl⟩
      · exact Or.inl (List.append_nil t)
      · rw [cutAt_cons (by decide)]
        exact Or.inr ⟨_, rfl⟩
    rw [cutAt_of_not_mem hhash]
    rcases hbefore with hwhole | ⟨query, hwhole⟩
    · rw [hwhole]
    · rw [hwhole]
      by_cases hquestion : '?' ∈ t
      · rw [cutAt_append_of_mem hquestion]
      · rw [cutAt_append_cons hquestion, cutAt_of_not_mem hquestion]

/-- Reading a text gives the same path and fails in the same way, whatever query stands behind. -/
theorem read_tail (h : IsTail tail) (t : Text) :
    (read (t ++ tail)).map bare = (read t).map bare := by
  have hcounted := counted_tail h t
  rw [counted, counted] at hcounted
  simp only [read, hcounted, cutScheme_tail h.filter, cutAuthority_tail h.filter, bind, Except.bind,
    pure, Except.pure]
  generalize (cutAuthority _).1 = authority
  cases checkBrackets authority with
  | error e => rfl
  | ok _ =>
      cases checkDeceptive authority with
      | error e => rfl
      | ok _ => simp only [Except.map, bare, cutPath_tail h.filter]

theorem text_query (scheme authority path query : Text) :
    text ⟨scheme, authority, path, query, []⟩ =
      text ⟨scheme, authority, path, [], []⟩ ++ if query = [] then [] else '?' :: query := by
  simp [text, hierarchy]

/-! ### Where a location leads -/

/-- A location up to its query or fragment. -/
def upToMarks (location : Text) : Text :=
  location.takeWhile fun c => c != '?' && c != '#'

theorem upToMarks_append {mark : Char} (hmark : mark = '?' ∨ mark = '#') (t rest : Text) :
    upToMarks (location (t ++ mark :: rest)) = upToMarks (location t) := by
  have hkept : location [mark] = [mark] := by
    rcases hmark with rfl | rfl <;> decide +kernel
  have hends : ([mark] ++ location rest).takeWhile (fun c => c != '?' && c != '#') = [] := by
    rcases hmark with rfl | rfl <;> exact List.takeWhile_cons_of_neg (by decide)
  rw [← List.singleton_append, location_append, location_append, hkept, upToMarks, upToMarks,
    Text.takeWhile_append_of_ends _ hends]

theorem upToMarks_part {mark : Char} (hmark : mark = '?' ∨ mark = '#') (t part : Text) :
    upToMarks (location (t ++ if part = [] then [] else mark :: part)) = upToMarks (location t) := by
  split
  · rw [List.append_nil]
  · exact upToMarks_append hmark t part

/-- What follows a path is not seen in a location up to there. -/
theorem upToMarks_text (u : Url) :
    upToMarks (location u.text) = upToMarks (location u.bare.text) := by
  have hbare : u.bare.text = (if u.scheme = [] then [] else u.scheme ++ [':']) ++ u.hierarchy := by
    rw [text, bare, if_pos rfl, if_pos rfl, List.append_nil, List.append_nil]
    rfl
  rw [text, hbare, upToMarks_part (Or.inr rfl), upToMarks_part (Or.inl rfl)]

end Url

namespace Request

variable (r : Request)

/-- A request without its query. -/
def withoutQuery : Request :=
  { r with target := (Url.cutAt '?' r.target).1 }

theorem path_withoutQuery : r.withoutQuery.path = r.path := by
  rw [path, path, withoutQuery, Url.cutAt_of_not_mem (Url.not_mem_cutAt '?' r.target)]

theorem query_withoutQuery : r.withoutQuery.query = [] := by
  rw [query, withoutQuery, Url.cutAt_of_not_mem (Url.not_mem_cutAt '?' r.target)]

/-- The query stands at the end of each URL of a request. -/
theorem urlText_withoutQuery (path : Text) :
    r.urlText path = (r.withoutQuery.urlText path).map
      (· ++ if r.query = [] then [] else '?' :: r.query) := by
  have hauthority : r.withoutQuery.authority? = r.authority? := rfl
  have hscheme : r.withoutQuery.scheme = r.scheme := rfl
  rw [urlText, urlText, hauthority, query_withoutQuery, hscheme]
  cases r.authority? with
  | error e => rfl
  | ok found =>
      cases found with
      | none => simp [bind, Except.bind, pure, Except.pure, Except.map]
      | some authority =>
          simp only [bind, Except.bind, pure, Except.pure, Except.map]
          rw [Url.text_query]

theorem url_withoutQuery : r.withoutQuery.url.map Url.bare = r.url.map Url.bare := by
  rw [url, url, r.urlText_withoutQuery, path_withoutQuery]
  cases r.withoutQuery.urlText r.path with
  | error e => rfl
  | ok t => exact (Url.read_tail (Url.isTail_query r.query) t).symm

theorem shownPath_withoutQuery : r.withoutQuery.shownPath = r.shownPath := by
  have hpath : ∀ url : Except UrlError Url, url.map (·.path) = (url.map Url.bare).map (·.path) := by
    intro url
    cases url <;> rfl
  rw [shownPath, shownPath, hpath, url_withoutQuery, ← hpath]

end Request

/-! ### What is answered -/

/-- Results that differ in no more than what follows the path to which a redirect leads. -/
inductive App.LeadsAlike : Except Failure Delivery → Except Failure Delivery → Prop
  | same (result : Except Failure Delivery) : LeadsAlike result result
  | redirect (target target' : Text)
      (path : Url.upToMarks (Url.location target) = Url.upToMarks (Url.location target')) :
      LeadsAlike (.ok ⟨Response.redirect target, none⟩) (.ok ⟨Response.redirect target', none⟩)

/-- So for answers, which have as many locations and are else the same. -/
structure Answer.LeadsAlike (x y : Answer) : Prop where
  response : x.response.Agrees y.response
  locations : (x.response.headers.values "location".toList).map Url.upToMarks =
    (y.response.headers.values "location".toList).map Url.upToMarks
  complete : x.complete = y.complete
  raised : x.raised = y.raised
  log : x.log = y.log

theorem Answer.LeadsAlike.symm {x y : Answer} (h : x.LeadsAlike y) : y.LeadsAlike x :=
  ⟨h.response.symm, h.locations.symm, h.complete.symm, h.raised.symm, h.log.symm⟩

theorem Answer.LeadsAlike.trans {x y z : Answer} (h : x.LeadsAlike y) (h' : y.LeadsAlike z) :
    x.LeadsAlike z :=
  ⟨h.response.trans h'.response, h.locations.trans h'.locations, h.complete.trans h'.complete,
    h.raised.trans h'.raised, h.log.trans h'.log⟩

namespace App

variable (a : App) (v : Vantage) (r : Request) (c : Circumstances)

theorem notFound_withoutQuery : notFound r.withoutQuery = notFound r := by
  rw [notFound, notFound, Request.shownPath_withoutQuery]
  rfl

theorem redirectToDirectory_withoutQuery :
    LeadsAlike (redirectToDirectory r.withoutQuery) (redirectToDirectory r) := by
  have hbare := r.url_withoutQuery
  rw [redirectToDirectory, redirectToDirectory]
  cases hurl : r.url with
  | error e =>
      cases hurl' : r.withoutQuery.url with
      | error e' =>
          rw [hurl, hurl'] at hbare
          cases hbare
          exact .same _
      | ok u' =>
          rw [hurl, hurl'] at hbare
          cases hbare
  | ok u =>
      cases hurl' : r.withoutQuery.url with
      | error e' =>
          rw [hurl, hurl'] at hbare
          cases hbare
      | ok u' =>
          rw [hurl, hurl'] at hbare
          have hslash : ∀ u : Url, Url.bare { u with path := u.path ++ ['/'] } =
              ⟨u.bare.scheme, u.bare.authority, u.bare.path ++ ['/'], [], []⟩ := fun _ => rfl
          refine .redirect _ _ ((Url.upToMarks_text _).trans (.trans ?_ (Url.upToMarks_text _).symm))
          rw [hslash u', hslash u, Except.ok.inj hbare]

theorem outside_withoutQuery (route : Text) :
    LeadsAlike (outside a r.withoutQuery route) (outside a r route) := by
  have hroot : r.withoutQuery.rootPath = r.rootPath := rfl
  simp only [outside, notFound_withoutQuery, Request.path_withoutQuery, r.urlText_withoutQuery, hroot]
  split
  · exact .same _
  · split
    · exact .same _
    · exact .same _
    · cases r.withoutQuery.urlText (otherSlash route r.path) with
      | error e => exact .same _
      | ok target => exact .redirect _ _ (Url.upToMarks_part (Or.inl rfl) target r.query).symm

theorem result_withoutQuery {m m' : Material} (h : m.Moved r r.withoutQuery m') (boundary : Text) :
    LeadsAlike (m'.result v boundary r.withoutQuery) (m.result v boundary r) := by
  cases h with
  | same m =>
      have hsame : m.result v boundary r.withoutQuery = m.result v boundary r :=
        Material.result_congr v (by rfl) (by rfl) boundary m
      rw [hsame]
      exact .same _
  | notFound =>
      rw [notFound_withoutQuery]
      exact .same _
  | redirect => exact redirectToDirectory_withoutQuery r

/-- What comes of a request without its query differs in no more than where a redirect leads. -/
theorem material_withoutQuery (boundary : Text) :
    LeadsAlike ((a.material v r.withoutQuery).result v boundary r.withoutQuery)
      ((a.material v r).result v boundary r) := by
  have hroot : r.withoutQuery.rootPath = r.rootPath := rfl
  have hinside : ∀ route rest,
      LeadsAlike ((a.insideMaterial v r.withoutQuery route rest).result v boundary r.withoutQuery)
        ((a.insideMaterial v r route rest).result v boundary r) := by
    intro route rest
    have hslash : r.withoutQuery.path.endsWith ['/'] = r.path.endsWith ['/'] := by
      rw [Request.path_withoutQuery]
    have hfile : filePath r.withoutQuery route rest = filePath r route rest := by
      rw [filePath, filePath, Request.path_withoutQuery]
      rfl
    have hmethod : r.withoutQuery.method = r.method := rfl
    have hhead : headOnly r.withoutQuery = headOnly r := rfl
    rw [insideMaterial, insideMaterial, hmethod, hhead, hfile]
    split
    · exact result_withoutQuery v r (a.contentMaterial_moved v hslash _) boundary
    · exact .same _
  simp only [material, Request.path_withoutQuery, hroot]
  split
  · exact .same _
  · exact outside_withoutQuery a r _
  · split
    · exact hinside _ _
    · split
      · exact .same _
      · exact hinside _ _

/-- What is concluded from such results differs in no more than that. -/
theorem LeadsAlike.conclude {result result' : Except Failure Delivery} (h : LeadsAlike result result') :
    (conclude c r result).LeadsAlike (conclude c r result') := by
  cases h with
  | same result => exact ⟨⟨rfl, rfl, rfl⟩, rfl, rfl, rfl, rfl⟩
  | redirect target target' path =>
      cases hshown : r.shownPath with
      | error e =>
          rw [conclude_of_error hshown, conclude_of_error hshown]
          exact ⟨⟨rfl, rfl, rfl⟩, rfl, rfl, rfl, rfl⟩
      | ok shown =>
          rw [conclude_of_ok hshown, conclude_of_ok hshown]
          refine ⟨?_, ?_, rfl, rfl, rfl⟩
          · exact ((Response.agrees_timed _ c).trans (Response.agrees_redirect target target')).trans
              (Response.agrees_timed _ c).symm
          · have hlocation : ∀ t, Headers.values ((Response.redirect t).headers ++ [timeHeader c])
                "location".toList = [Url.location t] := fun t => by rfl
            simp only [hlocation, List.map_cons, path]

/-- A query shows only in where a redirect leads, behind the path. -/
theorem handle_withoutQuery :
    (a.handle v c r.withoutQuery).1 = (a.handle v c r).1 ∧
      (a.handle v c r.withoutQuery).2.LeadsAlike (a.handle v c r).2 := by
  constructor
  · refine handle_fst_congr ?_ a v c
    rw [Request.path_withoutQuery]
    rfl
  · rw [handle_snd, handle_snd, conclude_congr (by rfl) r.shownPath_withoutQuery]
    exact (material_withoutQuery a v r c.boundary).conclude r c

end App

namespace Request

/-- What counts of a request: not its query, and of its headers those that are heeded. -/
def essence (r : Request) : Request :=
  { r with target := (Url.cutAt '?' r.target).1, headers := r.headers.heed }

end Request

/-- Two requests with the same method, the same path and the same heeded headers, made in the same way,
are answered alike: their answers differ in no more than what follows the path to which a redirect
leads, and the site comes to know the same. -/
theorem App.handle_of_essence_eq (a : App) (v : Vantage) (c : Circumstances) {r r' : Request}
    (h : r.essence = r'.essence) :
    (a.handle v c r).1 = (a.handle v c r').1 ∧ (a.handle v c r).2.LeadsAlike (a.handle v c r').2 := by
  have hessence : ∀ r : Request, (a.handle v c r.essence).1 = (a.handle v c r).1 ∧
      (a.handle v c r.essence).2.LeadsAlike (a.handle v c r).2 := by
    intro r
    have hheeded : a.handle v c r.essence = a.handle v c r.withoutQuery :=
      handle_withHeaders (r := r.withoutQuery) (fun name hname => r.headers.first?_heed hname) a v c
    rw [hheeded]
    exact a.handle_withoutQuery v r c
  obtain ⟨hstate, hanswer⟩ := hessence r
  obtain ⟨hstate', hanswer'⟩ := hessence r'
  rw [h] at hstate hanswer
  exact ⟨hstate.symm.trans hstate', hanswer.symm.trans hanswer'⟩

/-! ### A directory that is asked for with a query -/

namespace QueriedSite

open PassingRoot

def vantage : Vantage :=
  ⟨⟨[(["pub".toList], ⟨.directory, 0o755⟩), (["pub".toList, ['d']], ⟨.directory, 0o755⟩),
    (["pub".toList, ['d'], App.indexName], ⟨.file (Utf8.encode "hello".toList) 0, 0o644⟩)]⟩,
    .superuser, []⟩

def host : Text × Text := ("Host".toList, "example.org".toList)

def plain : Request :=
  { get "/d" with headers := [host] }

def queried : Request :=
  { get "/d?a=/#b" with headers := [("accept".toList, "text/html".toList), host] }

/-- Both requests are redirected to the path with a slash, the query behind it. -/
theorem handle_of_essence_eq_queried :
    plain.essence = queried.essence ∧
      (site.handle vantage circumstances plain).2.LeadsAlike
        (site.handle vantage circumstances queried).2 ∧
      (site.handle vantage circumstances plain).2.response.headers.values "location".toList =
        ["http://example.org/d/".toList] ∧
      (site.handle vantage circumstances queried).2.response.headers.values "location".toList =
        ["http://example.org/d/?a=/#b".toList] := by
  have hessence : plain.essence = queried.essence := by rfl
  obtain ⟨-, hanswers⟩ := App.handle_of_essence_eq site vantage circumstances hessence
  exact ⟨hessence, hanswers, by decide +kernel, by decide +kernel⟩

end QueriedSite

end StaticSite
