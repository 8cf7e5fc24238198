import StaticSite.Proofs.Coding
import StaticSite.Proofs.HeaderNames
import StaticSite.Proofs.HeaderValues
import StaticSite.Proofs.Relocation

/-! Where redirects lead. A request that names no host and comes in at a server with a plain name is
redirected to no other server, whatever its path and its query are: the location begins with the scheme
and the name, after which a path begins, and nothing in it ends a line. -/

namespace StaticSite

namespace Url

/-- A location at a server, with or without its port. -/
structure StaysAt (scheme name : Text) (port : Int) (location : Text) : Prop where
  visible : location.all Wire.isVisible = true
  origin : ∃ rest, location = scheme ++ "://".toList ++ name ++ '/' :: rest ∨
    location = scheme ++ "://".toList ++ (name ++ ':' :: Text.ofInt port) ++ '/' :: rest

/-! ### What stands before a path -/

theorem isKept_of_isPlainChar {c : Char} (h : isPlainChar c = true) :
    Percent.isKept isKeptInLocation c = true := by
  have hsmall : c.toNat < 0x80 := toNat_lt_of_isPlainChar h
  have hall : (List.range 0x80).all (fun n => !isPlainChar (Char.ofNat n) ||
      Percent.isKept isKeptInLocation (Char.ofNat n)) = true := by
    decide +kernel
  have hchar := List.all_eq_true.mp hall c.toNat (List.mem_range.mpr hsmall)
  rw [Char.ofNat_toNat, h] at hchar
  simpa using hchar

theorem isPlainChar_of_isSchemeChar {c : Char} (h : isSchemeChar c = true) : isPlainChar c = true := by
  simp only [isSchemeChar, Bool.or_eq_true, beq_iff_eq] at h
  rcases h with ((h | rfl) | rfl) | rfl
  · simp [isPlainChar, isHostChar, h]
  all_goals decide

theorem location_append (s t : Text) : location (s ++ t) = location s ++ location t :=
  Percent.encode_append isKeptInLocation s t

theorem isKept_of_isNamingChar {c : Char} (h : isNamingChar c = true) :
    Percent.isKept isKeptInLocation c = true := by
  rcases isNamingChar_iff.mp h with h | rfl | rfl
  · exact isKept_of_isPlainChar h
  · decide
  · decide

/-- What stands before a path is left as it is, and so is the slash with which that begins. -/
theorem location_origin {scheme authority : Text} (hscheme : isScheme scheme = true)
    (hauthority : ∀ c ∈ authority, isNamingChar c = true) (rest : Text) :
    location (scheme ++ "://".toList ++ authority ++ '/' :: rest) =
      scheme ++ "://".toList ++ authority ++ '/' :: location rest := by
  have hkept : ∀ c ∈ scheme ++ "://".toList ++ authority ++ ['/'],
      Percent.isKept isKeptInLocation c = true := by
    have hmarks : ∀ c ∈ "://".toList ++ ['/'], Percent.isKept isKeptInLocation c = true :=
      List.all_eq_true.mp (by decide)
    intro c hc
    simp only [List.mem_append] at hc hmarks
    rcases hc with ((hc | hc) | hc) | hc
    · exact isKept_of_isPlainChar (isPlainChar_of_isSchemeChar ((isScheme_chars hscheme).2 c hc))
    · exact hmarks c (Or.inl hc)
    · exact isKept_of_isNamingChar (hauthority c hc)
    · exact hmarks c (Or.inr hc)
  have hsplit : scheme ++ "://".toList ++ authority ++ '/' :: rest =
      scheme ++ "://".toList ++ authority ++ ['/'] ++ rest := by simp
  have hfront : location (scheme ++ "://".toList ++ authority ++ ['/']) =
      scheme ++ "://".toList ++ authority ++ ['/'] := Percent.encode_eq_self hkept
  rw [hsplit, location_append, hfront]
  simp

/-- A path begins with a slash where an authority stands before it. -/
theorem exists_rooted {path : Text} (h : path ≠ []) : ∃ rest, rooted path = '/' :: rest := by
  obtain ⟨c, rest, rfl⟩ := List.exists_cons_of_ne_nil h
  by_cases hc : c = '/'
  · exact ⟨rest, by rw [rooted, if_pos hc, hc]⟩
  · exact ⟨c :: rest, by rw [rooted, if_neg hc]⟩

/-- The text of a URL with a path begins with the scheme and the authority. -/
theorem exists_text_eq {u : Url} (hscheme : u.scheme ≠ []) (hauthority : u.authority ≠ [])
    (hpath : u.path ≠ []) :
    ∃ rest, u.text = u.scheme ++ "://".toList ++ u.authority ++ '/' :: rest := by
  obtain ⟨rest, hrest⟩ := exists_rooted hpath
  refine ⟨rest ++ (if u.query = [] then [] else '?' :: u.query) ++
    (if u.fragment = [] then [] else '#' :: u.fragment), ?_⟩
  rw [text, if_neg hscheme, hierarchy_eq hauthority, hrest]
  simp

end Url

namespace App

variable {a : App} {v : Vantage} {r : Request} {boundary : Text}

/-- What is delivered for a request is a redirect to where that leads, or describes its body. -/
theorem Makes.redirect_or_describe {m : Material} (h : a.Makes v r m) {d : Delivery}
    (hd : m.result v boundary r = .ok d) :
    (∃ target, a.RedirectsTo r target ∧ d = ⟨Response.redirect target, none⟩) ∨
      d.response.headers.describe = true := by
  cases m with
  | fixed result =>
      cases h.tells hd with
      | refusal status first message hnamed hadded =>
          exact Or.inr (Response.describe_refusal hadded)
      | redirect target hleads => exact Or.inl ⟨target, hleads, rfl⟩
  | file s =>
      rw [Material.result] at hd
      cases hdescribe : Material.describe s with
      | error e =>
          rw [hdescribe] at hd
          cases hd
      | ok description =>
          rw [hdescribe] at hd
          cases hd
          refine Or.inr ?_
          dsimp only
          split
          · exact FileResponse.describe_whole .notFound
          · exact FileResponse.describe_answer _

/-- An answer has one location, where a redirect leads, or none. -/
theorem Makes.locations {m : Material} (h : a.Makes v r m) {shown : Text}
    (hshown : r.shownPath = .ok shown) (c : Circumstances) :
    let answer := conclude c r (m.result v c.boundary r)
    answer.response.headers.values "location".toList = [] ∨
      ∃ target, a.RedirectsTo r target ∧
        answer.response.headers.values "location".toList = [Url.location target] := by
  intro answer
  cases hresult : m.result v c.boundary r with
  | error e =>
      left
      simp only [answer, hresult, conclude, hshown]
      rfl
  | ok d =>
      have hvalues : answer.response.headers.values "location".toList =
          d.response.headers.values "location".toList := by
        simp only [answer, hresult, conclude_of_ok hshown, Headers.values_append]
        exact List.append_nil _
      rw [hvalues]
      rcases h.redirect_or_describe hresult with ⟨target, hleads, rfl⟩ | hdescribe
      · exact Or.inr ⟨target, hleads, rfl⟩
      · exact Or.inl (Headers.values_of_describe hdescribe (by decide))

/-- Both redirects lead to a path at the authority that the request reached. -/
theorem RedirectsTo.exists_eq {target authority : Text} (h : a.RedirectsTo r target)
    (hmount : Mount.ofPrefix a.settings.urlPrefix = .ok a.mount)
    (hscheme : Url.isScheme r.scheme = true) (hroot : r.rootPath = [])
    (hreached : r.authority? = .ok (some authority)) (hauthority : Url.Readable authority) :
    ∃ rest, target = r.scheme ++ "://".toList ++ authority ++ '/' :: rest := by
  have hne : r.scheme ≠ [] := (Url.isScheme_chars hscheme).1
  cases h with
  | slash path rest target htaken htold =>
      rw [hroot, routePath, if_pos rfl] at htaken
      obtain ⟨path, rfl⟩ := Mount.exists_cons_of_match? hmount htaken
      rw [Request.urlText, hreached] at htold
      cases htold
      exact Url.exists_text_eq hne hauthority.notEmpty (List.cons_ne_nil _ _)
  | directory u htold =>
      obtain ⟨query, fragment, hurl, -⟩ := Request.url_eq_of_authority hscheme hreached hauthority
      obtain rfl := Except.ok.inj (hurl.symm.trans htold)
      exact Url.exists_text_eq hne hauthority.notEmpty (List.append_ne_nil_of_right_ne_nil _ (by simp))

/-- A request that names no host and comes in at a server with a plain name is redirected to that
server or not at all, and the location is visible throughout. -/
theorem redirects_stay {s : Settings} (hcreate : create s = .ok a) (known : Bool) (v : Vantage)
    (c : Circumstances) (hscheme : r.scheme = "http".toList ∨ r.scheme = "https".toList)
    (hunnamed : r.headers.first? "host".toList = none) (hroot : r.rootPath = []) {name : Text}
    {port : Int} (hserver : r.server = some (name, port)) (hvalid : name ≠ [])
    (hplain : name.all Url.isHostChar = true) :
    let answer := (({ a with rootChecked := known } : App).handle v c r).2
    let locations := answer.response.headers.values "location".toList
    locations = [] ∨
      ∃ location, locations = [location] ∧ Url.StaysAt r.scheme name port location := by
  intro answer locations
  obtain ⟨expected, hexpected⟩ : ∃ expected, Request.defaultPort? r.scheme = some expected := by
    rcases hscheme with h | h
    · exact ⟨80, by rw [h]; rfl⟩
    · exact ⟨443, by rw [h]; rfl⟩
  have hknown : Url.isScheme r.scheme = true := Request.isScheme_of_defaultPort? hexpected
  have hreached := Request.authority?_of_server hexpected hunnamed hserver hvalid hplain
  obtain ⟨-, hauthority⟩ := Request.isPlain_of_server hvalid hplain port expected
  have hmount : Mount.ofPrefix a.settings.urlPrefix = .ok a.mount := mount_of_create hcreate
  obtain ⟨u, hurl, -⟩ := Request.url_of_authority hknown hreached hauthority.readable
  have hshown : r.shownPath = .ok u.path := by
    rw [Request.shownPath, hurl]
    rfl
  have hmakes := ({ a with rootChecked := known } : App).material_makes v r
  have hanswer : answer = conclude c r _ := handle_snd { a with rootChecked := known } v r c
  simp only [locations, hanswer]
  refine (hmakes.locations hshown c).imp_right ?_
  rintro ⟨target, hleads, hlocation⟩
  obtain ⟨rest, rfl⟩ := hleads.exists_eq hmount hknown hroot hreached hauthority.readable
  refine ⟨_, hlocation, Url.visible_location _, Url.location rest, ?_⟩
  rw [Url.location_origin hknown fun c hc =>
    Url.isNamingChar_of_isPlainChar (hauthority.chars c hc)]
  split
  · exact Or.inl rfl
  · exact Or.inr rfl

end App

/-! ### A directory with the name of another host -/

namespace DecoySite

open PassingRoot

/-- A site with a directory the name of which looks like an authority. -/
def vantage : Vantage :=
  ⟨⟨[(["pub".toList], ⟨.directory, 0o755⟩),
    (["pub".toList, "a@evil".toList], ⟨.directory, 0o755⟩),
    (["pub".toList, "a@evil".toList, App.indexName],
      ⟨.file (Utf8.encode "hello".toList) 0, 0o644⟩)]⟩, .superuser, []⟩

/-- A request for it by a path that could be taken for an authority and a path of backslashes. -/
def request : Request :=
  { get "//a@evil/%5C/..?%0d" with server := some ("testserver".toList, 8080) }

/-- The redirect to the directory stays at the server. -/
theorem redirects_stay_decoy :
    let answer := (({ site with rootChecked := true } : App).handle vantage circumstances request).2
    answer.response.status = .temporaryRedirect ∧
      ∃ location, answer.response.headers.values "location".toList = [location] ∧
        Url.StaysAt "http".toList "testserver".toList 8080 location := by
  have hstatus : (({ site with rootChecked := true } : App).handle vantage circumstances
      request).2.response.status = .temporaryRedirect := by decide +kernel
  have hlocation : (({ site with rootChecked := true } : App).handle vantage circumstances
      request).2.response.headers.values "location".toList ≠ [] := by decide +kernel
  have hcreate : App.create settings = .ok site := by decide +kernel
  have hstays := App.redirects_stay (r := request) hcreate true vantage circumstances (Or.inl rfl) rfl
    rfl rfl (by decide) (by decide)
  generalize ({ site with rootChecked := true } : App).handle vantage circumstances request = x at *
  exact ⟨hstatus, hstays.resolve_left hlocation⟩

end DecoySite

end StaticSite
