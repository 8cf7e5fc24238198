import StaticSite.Proofs.Arrival
import StaticSite.Proofs.Authority

/-! Requests whose path can be told. The path is taken from the URL of the request, which is put
together and read again; this goes well for each request that names its host or comes in at a server
with a name, whatever its path. Without an authority the path itself may be taken for one. -/

namespace StaticSite

namespace Url

/-! ### When a text is read -/

/-- What counts in the text of a URL. -/
def counted (t : Text) : Text :=
  (t.dropWhile fun c => c.toNat ≤ 0x20).filter (!isDropped ·)

/-- The authority that is found in a text. -/
def foundAuthority (t : Text) : Text :=
  (cutAuthority (cutScheme (counted t)).2).1

/-- A text can be read exactly if the authority found in it passes both checks. -/
theorem exists_read_iff (t : Text) :
    (∃ u, read t = .ok u) ↔
      checkBrackets (foundAuthority t) = .ok () ∧ checkDeceptive (foundAuthority t) = .ok () := by
  simp only [read, foundAuthority, counted, bind, Except.bind, pure, Except.pure]
  generalize (cutAuthority (cutScheme _).2).1 = authority
  cases checkBrackets authority with
  | error e => simp
  | ok _ =>
      cases checkDeceptive authority with
      | error e => simp
      | ok _ => simp

theorem cutAuthority_append {c d : Char} {rest tail : Text}
    (h : tail.takeWhile (!endsAuthority ·) = []) :
    (cutAuthority (c :: d :: (rest ++ tail))).1 = (cutAuthority (c :: d :: rest)).1 := by
  by_cases hslashes : c = '/' ∧ d = '/'
  · obtain ⟨rfl, rfl⟩ := hslashes
    rw [cutAuthority, cutAuthority, Text.takeWhile_append_of_ends rest h]
  · have hnone : ∀ t, cutAuthority (c :: d :: t) = ([], c :: d :: t) := by
      intro t
      unfold cutAuthority
      split
      · rename_i heq
        simp only [List.cons.injEq] at heq
        exact absurd ⟨heq.1, heq.2.1⟩ hslashes
      · rfl
    rw [hnone, hnone]

/-- What stands before the slashes of an authority: nothing, or a scheme. -/
def IsFront (t : Text) : Prop :=
  t = [] ∨ ∃ scheme, t = scheme ++ [':']

/-- What counts before the slashes is such a front again. -/
theorem counted_append {front : Text} (h : IsFront front) :
    ∃ front', IsFront front' ∧
      ∀ t, counted (front ++ '/' :: '/' :: t) = front' ++ '/' :: '/' :: t.filter (!isDropped ·) := by
  have hslashes : ∀ t : Text, ('/' :: '/' :: t).filter (!isDropped ·) =
      '/' :: '/' :: t.filter (!isDropped ·) := by
    intro t
    rw [List.filter_cons_of_pos (by decide), List.filter_cons_of_pos (by decide)]
  rcases h with rfl | ⟨scheme, rfl⟩
  · refine ⟨[], Or.inl rfl, fun t => ?_⟩
    rw [counted, List.nil_append, List.dropWhile_cons_of_neg (by decide), hslashes, List.nil_append]
  · have hkept : ∀ t, (scheme ++ ':' :: t).dropWhile (fun c => c.toNat ≤ 0x20) =
        scheme.dropWhile (fun c => c.toNat ≤ 0x20) ++ ':' :: t := by
      intro t
      rw [List.dropWhile_append]
      split
      · rename_i hempty
        rw [List.isEmpty_iff.mp hempty, List.dropWhile_cons_of_neg (by decide), List.nil_append]
      · rfl
    refine ⟨(scheme.dropWhile fun c => c.toNat ≤ 0x20).filter (!isDropped ·) ++ [':'],
      Or.inr ⟨_, rfl⟩, fun t => ?_⟩
    rw [counted, List.append_assoc, List.singleton_append, hkept, List.filter_append,
      List.filter_cons_of_pos (by decide), hslashes, List.append_assoc, List.singleton_append]

/-- A scheme is cut off from the front or is not, whatever follows the slashes. -/
theorem cutScheme_append {front : Text} (h : IsFront front) :
    ∃ before, ∀ t, (cutScheme (front ++ '/' :: '/' :: t)).2 = before ++ '/' :: '/' :: t := by
  rcases h with rfl | ⟨scheme, rfl⟩
  · exact ⟨[], fun t => by rw [List.nil_append, cutScheme_slash]⟩
  · have hcolon : ':' ∈ scheme ++ [':'] := List.mem_append_right _ (List.mem_singleton_self _)
    obtain ⟨⟨name, rest⟩, hcut⟩ := Text.exists_cutFirst?_of_mem hcolon
    have hwhole := fun t => Text.cutFirst?_append_of_some hcut ('/' :: '/' :: t)
    cases name with
    | nil => exact ⟨scheme ++ [':'], fun t => by rw [cutScheme, hwhole]⟩
    | cons c name =>
        by_cases hscheme : (c.isAlpha && (c :: name).all isSchemeChar) = true
        · exact ⟨rest, fun t => by simp only [cutScheme, hwhole, hscheme, if_true]⟩
        · exact ⟨scheme ++ [':'], fun t => by simp only [cutScheme, hwhole, hscheme]; rfl⟩

/-- The authority that is found in a text does not depend on what follows it there. -/
theorem foundAuthority_append {front : Text} (hfront : IsFront front) (authority : Text) :
    ∃ found, ∀ tail, (tail.filter (!isDropped ·)).takeWhile (!endsAuthority ·) = [] →
      foundAuthority (front ++ '/' :: '/' :: (authority ++ tail)) = found := by
  obtain ⟨front', hfront', hcounted⟩ := counted_append hfront
  obtain ⟨before, hcut⟩ := cutScheme_append hfront'
  have hparts : ∃ c d rest, ∀ tail : Text,
      before ++ '/' :: '/' :: (authority.filter (!isDropped ·) ++ tail) = c :: d :: (rest ++ tail) := by
    rcases before with _ | ⟨c, _ | ⟨d, before⟩⟩
    · exact ⟨_, _, _, fun tail => rfl⟩
    · exact ⟨c, '/', '/' :: authority.filter (!isDropped ·), fun tail => rfl⟩
    · exact ⟨c, d, before ++ '/' :: '/' :: authority.filter (!isDropped ·), fun tail => by simp⟩
  obtain ⟨c, d, rest, hparts⟩ := hparts
  refine ⟨(cutAuthority (c :: d :: rest)).1, fun tail htail => ?_⟩
  rw [foundAuthority, hcounted, List.filter_append, hcut, hparts, cutAuthority_append htail]

theorem text_eq_append (scheme : Text) {authority : Text} (h : authority ≠ []) (path query : Text) :
    text ⟨scheme, authority, path, query, []⟩ =
      (if scheme = [] then [] else scheme ++ [':']) ++
        '/' :: '/' :: (authority ++ (rooted path ++ if query = [] then [] else '?' :: query)) := by
  rw [text, hierarchy_eq h]
  simp

/-- Whether the text of a URL with an authority can be read again does not depend on its path. -/
theorem exists_read_text_iff (scheme : Text) {authority : Text} (h : authority ≠ [])
    (path query path' query' : Text) :
    (∃ u, read (text ⟨scheme, authority, path, query, []⟩) = .ok u) ↔
      ∃ u, read (text ⟨scheme, authority, path', query', []⟩) = .ok u := by
  have hfront : IsFront (if scheme = [] then [] else scheme ++ [':']) := by
    split
    · exact Or.inl rfl
    · exact Or.inr ⟨scheme, rfl⟩
  obtain ⟨found, hfound⟩ := foundAuthority_append hfront authority
  have htail : ∀ path query, foundAuthority (text ⟨scheme, authority, path, query, []⟩) = found := by
    intro path query
    rw [text_eq_append scheme h]
    refine hfound _ ?_
    rw [List.filter_append]
    exact takeWhile_tail path query
  rw [exists_read_iff, exists_read_iff, htail, htail]

end Url

namespace Request

/-- A request whose path can be told, since its URL can be read. -/
def Legible (r : Request) : Prop :=
  ∃ u, r.url = .ok u

/-- A request of which no host is known, neither from itself nor from the server. -/
def Hostless (r : Request) : Prop :=
  r.authority? = .ok none ∨ r.authority? = .ok (some [])

variable {r r' : Request}

theorem legible_iff_shownPath : r.Legible ↔ ∃ shown, r.shownPath = .ok shown := by
  rw [Legible, shownPath]
  cases r.url with
  | ok u => simp [Except.map]
  | error e => simp [Except.map]

theorem not_legible (h : ¬ r.Legible) : ∃ e, r.url = .error e ∧ r.shownPath = .error e := by
  cases hurl : r.url with
  | ok u => exact absurd ⟨u, hurl⟩ h
  | error e => exact ⟨e, rfl, by rw [Request.shownPath, hurl]; rfl⟩

/-- The URL of a request that can be told can be put together for each path. -/
theorem Legible.exists_urlText (h : r.Legible) (path : Text) : ∃ t, r.urlText path = .ok t := by
  obtain ⟨u, hu⟩ := h
  simp only [url, urlText, bind, Except.bind] at hu ⊢
  cases hauthority : r.authority? with
  | error e =>
      rw [hauthority] at hu
      cases hu
  | ok found =>
      cases found with
      | none => exact ⟨_, rfl⟩
      | some authority => exact ⟨_, rfl⟩

/-- A request can be told that goes to an authority which is read again. -/
theorem legible_of_authority {authority : Text} (hscheme : Url.isScheme r.scheme = true)
    (hreached : r.authority? = .ok (some authority)) (hauthority : Url.Readable authority) :
    r.Legible := by
  obtain ⟨u, hu, -⟩ := url_of_authority hscheme hreached hauthority
  exact ⟨u, hu⟩

/-- How the host of a request is known: from the request itself, or as the name of the server at which
it comes in, by a scheme for which a port is expected. -/
inductive Located (r : Request) : Prop
  | host (named : r.NamesHost) (scheme : Url.isScheme r.scheme = true)
  | server (name : Text) (port expected : Int) (server : r.server = some (name, port))
      (valid : Url.isAuthority (bracketed name) = true)
      (scheme : defaultPort? r.scheme = some expected)

/-- A request that names its host, with or without a port, goes there. -/
theorem NamesHost.exists_authority (h : r.NamesHost) :
    ∃ authority, r.authority? = .ok (some authority) ∧ Url.Readable authority ∧
      ∀ c ∈ authority, Url.isNamingChar c = true := by
  obtain ⟨host, hnamed, hvalid⟩ := h
  obtain ⟨hreadable, hchars⟩ := Url.readable_of_isAuthority hvalid (Or.inl rfl)
  rw [List.append_nil] at hreadable hchars
  refine ⟨host, ?_, hreadable, hchars⟩
  rw [authority?, hnamed, Option.filter_some, if_pos hvalid]

/-- Where a request goes of which the host is known: to an authority that is read again. -/
theorem Located.exists_authority (h : r.Located) :
    Url.isScheme r.scheme = true ∧ ∃ authority, r.authority? = .ok (some authority) ∧
      Url.Readable authority ∧ ∀ c ∈ authority, Url.isNamingChar c = true := by
  rcases h with ⟨hnamed, hscheme⟩ | ⟨name, port, expected, hserver, hvalid, hscheme⟩
  · exact ⟨hscheme, hnamed.exists_authority⟩
  · refine ⟨isScheme_of_defaultPort? hscheme, ?_⟩
    cases hhost : (r.headers.first? "host".toList).filter Url.isAuthority with
    | some host =>
        obtain ⟨hnamed, hauthority⟩ := Option.filter_eq_some_iff.mp hhost
        exact NamesHost.exists_authority ⟨host, hnamed, hauthority⟩
    | none =>
        have hport : Url.IsPort (if port = expected then [] else ':' :: Text.ofInt port) := by
          split
          · exact Or.inl rfl
          · exact Or.inr ⟨_, rfl, fun c hc => isPlainChar_of_mem_ofInt hc⟩
        refine ⟨_, ?_, Url.readable_of_isAuthority hvalid hport⟩
        simp only [authority?, hhost, hserver, hscheme]
        split
        · rw [List.append_nil]
        · rfl

theorem Located.legible (h : r.Located) : r.Legible := by
  obtain ⟨hscheme, authority, hreached, hauthority, -⟩ := h.exists_authority
  exact legible_of_authority hscheme hreached hauthority

/-- Two requests that go to the same place can be told alike, whatever their paths. -/
theorem legible_iff (hscheme : r'.scheme = r.scheme) (hreached : r'.authority? = r.authority?)
    (h : ¬ r.Hostless) : r'.Legible ↔ r.Legible := by
  rw [Legible, Legible, url, url, urlText, urlText, hreached]
  cases hauthority : r.authority? with
  | error e => simp [bind, Except.bind]
  | ok found =>
      cases found with
      | none => exact absurd (Or.inl hauthority) h
      | some authority =>
          have hne : authority ≠ [] := by
            rintro rfl
            exact h (Or.inr hauthority)
          simp only [bind, Except.bind, pure, Except.pure]
          rw [hscheme]
          exact Url.exists_read_text_iff r.scheme hne _ _ _ _

end Request

end StaticSite
