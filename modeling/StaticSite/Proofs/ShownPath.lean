import StaticSite.Http.Request
import StaticSite.Proofs.Cuts

/-! The path of a request as it is shown. A request that reaches its site in plain words, that is by a
scheme which is known and an authority of letters, digits and a few marks, has a URL that can be read
again; its path is that of the request, with the characters coded that would end it and without those
that do not count in a URL. -/

namespace StaticSite

namespace Url

/-- Whether a character may stand in a plain authority: in a name, or before a port. -/
def isPlainChar (c : Char) : Bool :=
  isHostChar c || c == ':'

/-- An authority that a URL gives back as it is. -/
structure IsPlain (authority : Text) : Prop where
  notEmpty : authority ≠ []
  chars : ∀ c ∈ authority, isPlainChar c = true

theorem toNat_lt_of_isPlainChar {c : Char} (h : isPlainChar c = true) : c.toNat < 128 := by
  simp only [isPlainChar, isHostChar, Bool.or_eq_true, beq_iff_eq, List.contains_iff_mem] at h
  rcases h with (h | h) | rfl
  · exact Nat.lt_of_le_of_lt (Text.toNat_of_isAlphanum h).2 (by decide)
  · have hall : "._~%!$&'()*+,;=-".toList.all (fun c => c.toNat < 128) = true := by decide
    simpa using List.all_eq_true.mp hall c h
  · decide

theorem not_endsAuthority {c : Char} (h : isPlainChar c = true) : endsAuthority c = false := by
  rw [← Bool.not_eq_true]
  simp only [endsAuthority, Bool.or_eq_true, beq_iff_eq]
  rintro ((rfl | rfl) | rfl) <;> exact absurd h (by decide)

theorem not_isDropped {c : Char} (h : isPlainChar c = true) : isDropped c = false := by
  rw [← Bool.not_eq_true]
  simp only [isDropped, Bool.or_eq_true, beq_iff_eq]
  rintro ((rfl | rfl) | rfl) <;> exact absurd h (by decide)

/-- An authority that is read again as it was written after two slashes. -/
structure Readable (authority : Text) : Prop where
  notEmpty : authority ≠ []
  chars : ∀ c ∈ authority, endsAuthority c = false ∧ isDropped c = false
  checkBrackets_eq : checkBrackets authority = .ok ()
  checkDeceptive_eq : checkDeceptive authority = .ok ()

/-- An authority is found after two slashes, up to where something ends it. -/
theorem cutAuthority_append_of_ends {authority rest : Text}
    (hchars : ∀ c ∈ authority, endsAuthority c = false)
    (hrest : rest.takeWhile (!endsAuthority ·) = []) :
    cutAuthority ('/' :: '/' :: (authority ++ rest)) = (authority, rest) := by
  have hkept : ∀ c ∈ authority, (!endsAuthority c) = true := by
    intro c hc
    rw [hchars c hc]
    rfl
  have hdrop : rest.dropWhile (!endsAuthority ·) = rest := by
    have := List.takeWhile_append_dropWhile (p := (!endsAuthority ·)) (l := rest)
    rw [hrest, List.nil_append] at this
    exact this
  rw [cutAuthority, List.takeWhile_append_of_pos hkept, List.dropWhile_append_of_pos hkept, hrest,
    hdrop, List.append_nil]

theorem Readable.filter_eq {authority : Text} (h : Readable authority) :
    authority.filter (!isDropped ·) = authority := by
  rw [List.filter_eq_self]
  intro c hc
  rw [(h.chars c hc).2]
  rfl

/-- No character of a text in ASCII could be taken for another. -/
theorem checkDeceptive_of_ascii {authority : Text} (h : ∀ c ∈ authority, c.toNat < 128) :
    checkDeceptive authority = .ok () := by
  rw [checkDeceptive, if_neg]
  simp only [List.any_eq_true, List.contains_iff_mem, not_exists, not_and]
  intro c hc hmem
  have hlt := h c hc
  have hall : deceptive.all (128 ≤ ·) = true := by decide
  have hle := List.all_eq_true.mp hall _ hmem
  simp only [decide_eq_true_eq] at hle
  omega

namespace IsPlain

variable {authority : Text} (h : IsPlain authority)

include h

theorem checkBrackets_eq : checkBrackets authority = .ok () := by
  have hout : ∀ c, isPlainChar c = false → authority.contains c = false := by
    intro c hc
    simp only [List.contains_eq_mem, decide_eq_false_iff_not]
    intro hmem
    rw [h.chars c hmem] at hc
    cases hc
  rw [checkBrackets, hout '[' (by decide), hout ']' (by decide)]
  rfl

theorem readable : Readable authority where
  notEmpty := h.notEmpty
  chars c hc := ⟨not_endsAuthority (h.chars c hc), not_isDropped (h.chars c hc)⟩
  checkBrackets_eq := h.checkBrackets_eq
  checkDeceptive_eq := checkDeceptive_of_ascii fun c hc => toNat_lt_of_isPlainChar (h.chars c hc)

end IsPlain

/-! ### Schemes -/

/-- A scheme that is written as it is read. -/
def isScheme (scheme : Text) : Bool :=
  match scheme with
  | [] => false
  | c :: _ => c.isAlpha && scheme.all isSchemeChar && Text.asciiLower scheme == scheme

theorem cutScheme_eq {scheme : Text} (h : isScheme scheme = true) (rest : Text) :
    cutScheme (scheme ++ ':' :: rest) = (scheme, rest) := by
  cases scheme with
  | nil => cases h
  | cons c name =>
      simp only [isScheme, Bool.and_eq_true, beq_iff_eq] at h
      obtain ⟨⟨halpha, hall⟩, hlower⟩ := h
      have hcolon : ':' ∉ c :: name := fun hmem => by
        have := List.all_eq_true.mp hall _ hmem
        revert this
        decide
      rw [cutScheme, Text.cutFirst?_append_cons hcolon]
      simp only [halpha, hall, Bool.and_true, if_true, hlower]

/-- No scheme begins with a slash. -/
theorem cutScheme_slash (t : Text) : cutScheme ('/' :: t) = ([], '/' :: t) := by
  rw [cutScheme, Text.cutFirst?, if_neg (by decide)]
  cases Text.cutFirst? ':' t <;> rfl

/-- No character of a scheme is passed over, and none is a blank. -/
theorem isSchemeChar_plain {c : Char} (h : isSchemeChar c = true) :
    isDropped c = false ∧ ¬ c.toNat ≤ 0x20 := by
  constructor
  · rw [← Bool.not_eq_true]
    simp only [isDropped, Bool.or_eq_true, beq_iff_eq]
    rintro ((rfl | rfl) | rfl) <;> exact absurd h (by decide)
  · intro hle
    simp only [isSchemeChar, Bool.or_eq_true, beq_iff_eq] at h
    rcases h with ((h | rfl) | rfl) | rfl
    · exact absurd (Nat.le_trans (Text.toNat_of_isAlphanum h).1 hle) (by decide)
    · exact absurd hle (by decide)
    · exact absurd hle (by decide)
    · exact absurd hle (by decide)

theorem isScheme_chars {scheme : Text} (h : isScheme scheme = true) :
    scheme ≠ [] ∧ ∀ c ∈ scheme, isSchemeChar c = true := by
  cases scheme with
  | nil => cases h
  | cons c name =>
      simp only [isScheme, Bool.and_eq_true] at h
      exact ⟨List.cons_ne_nil _ _, List.all_eq_true.mp h.1.2⟩

/-! ### Reading a URL again -/

/-- A path as it stands after an authority. -/
def rooted (path : Text) : Text :=
  match path with
  | [] => []
  | c :: rest => if c = '/' then c :: rest else '/' :: c :: rest

theorem hierarchy_eq {u : Url} (h : u.authority ≠ []) :
    u.hierarchy = "//".toList ++ u.authority ++ rooted u.path := by
  rw [hierarchy, if_pos (Or.inl h)]
  rfl

theorem mem_rooted {path : Text} {c : Char} (h : c ∈ rooted path) : c = '/' ∨ c ∈ path := by
  cases path with
  | nil => cases h
  | cons d rest =>
      rw [rooted] at h
      split at h
      · exact Or.inr h
      · exact List.mem_cons.mp h

/-- What follows an authority: nothing, or something that ends it. -/
theorem takeWhile_tail (path query : Text) :
    ((rooted path).filter (!isDropped ·) ++
      (if query = [] then [] else '?' :: query).filter (!isDropped ·)).takeWhile
        (!endsAuthority ·) = [] := by
  have hslash : ∀ t : Text, ('/' :: t).filter (!isDropped ·) = '/' :: t.filter (!isDropped ·) :=
    fun t => List.filter_cons_of_pos (by decide)
  cases path with
  | nil =>
      rw [rooted, List.filter_nil, List.nil_append]
      split
      · rfl
      · rw [List.filter_cons_of_pos (by decide)]
        rfl
  | cons c path =>
      rw [rooted]
      split
      · rename_i hc
        rw [hc, hslash]
        rfl
      · rw [hslash]
        rfl

/-- The text of a URL without what does not count. -/
theorem clean_text {scheme authority : Text} (hscheme : isScheme scheme = true)
    (hauthority : authority ≠ []) (path query : Text) :
    ((text ⟨scheme, authority, path, query, []⟩).dropWhile fun c => c.toNat ≤ 0x20).filter
        (!isDropped ·) =
      scheme ++ ':' :: '/' :: '/' :: (authority.filter (!isDropped ·) ++
        ((rooted path).filter (!isDropped ·) ++
          (if query = [] then [] else '?' :: query).filter (!isDropped ·))) := by
  obtain ⟨hne, hchars⟩ := isScheme_chars hscheme
  have htext : text ⟨scheme, authority, path, query, []⟩ =
      scheme ++ ':' :: '/' :: '/' :: (authority ++ (rooted path ++
        if query = [] then [] else '?' :: query)) := by
    rw [text, if_neg hne, hierarchy_eq hauthority]
    simp
  have hkeep : scheme.filter (!isDropped ·) = scheme := by
    rw [List.filter_eq_self]
    intro c hc
    rw [(isSchemeChar_plain (hchars c hc)).1]
    rfl
  have hstart : ∀ t, (scheme ++ t).dropWhile (fun c => c.toNat ≤ 0x20) = scheme ++ t := by
    intro t
    obtain ⟨c, name, rfl⟩ := List.exists_cons_of_ne_nil hne
    refine List.dropWhile_cons_of_neg ?_
    simpa using (isSchemeChar_plain (hchars c List.mem_cons_self)).2
  rw [htext, hstart, List.filter_append, hkeep, List.filter_cons_of_pos (by decide),
    List.filter_cons_of_pos (by decide), List.filter_cons_of_pos (by decide), List.filter_append,
    List.filter_append]

/-- A path without marks is cut from what follows it, which is nothing where nothing does. -/
theorem cut_query {path : Text} (hquestion : '?' ∉ path) (hhash : '#' ∉ path) (query : Text) :
    ∃ before query' fragment,
      cutAt '#' (path ++ (if query = [] then [] else '?' :: query).filter (!isDropped ·)) =
          (before, fragment) ∧
        cutAt '?' before = (path, query') ∧ (query = [] → query' = [] ∧ fragment = []) := by
  by_cases hquery : query = []
  · refine ⟨path, [], [], ?_, cutAt_of_not_mem hquestion, fun _ => ⟨rfl, rfl⟩⟩
    rw [if_pos hquery, List.filter_nil, List.append_nil]
    exact cutAt_of_not_mem hhash
  · rw [cutAt_append hhash, if_neg hquery, List.filter_cons_of_pos (by decide), cutAt_cons (by decide)]
    exact ⟨_, _, _, rfl, cutAt_append_cons hquestion _, fun h => absurd h hquery⟩

/-- What is read of the text of a URL in which nothing ends the authority: whether it can be read is
told by the authority alone, and the path is the same without what does not count. -/
theorem read_text_eq {scheme authority path : Text} (query : Text) (hscheme : isScheme scheme = true)
    (hauthority : authority ≠ []) (hends : ∀ c ∈ authority, endsAuthority c = false)
    (hquestion : '?' ∉ path) (hhash : '#' ∉ path) :
    ∃ query' fragment,
      read (text ⟨scheme, authority, path, query, []⟩) =
          (do
            checkBrackets (authority.filter (!isDropped ·))
            checkDeceptive (authority.filter (!isDropped ·))
            return ⟨scheme, authority.filter (!isDropped ·), (rooted path).filter (!isDropped ·),
              query', fragment⟩) ∧
        (query = [] → query' = [] ∧ fragment = []) := by
  have hmark : ∀ mark, mark ≠ '/' → mark ∉ path → mark ∉ (rooted path).filter (!isDropped ·) := by
    intro mark hslash hpath hmem
    rcases mem_rooted (List.mem_filter.mp hmem).1 with h | h
    · exact hslash h
    · exact hpath h
  have hfound : ∀ c ∈ authority.filter (!isDropped ·), endsAuthority c = false :=
    fun c hc => hends c (List.mem_filter.mp hc).1
  obtain ⟨before, query', fragment, hcut, hcut', hbare⟩ :=
    cut_query (hmark '?' (by decide) hquestion) (hmark '#' (by decide) hhash) query
  refine ⟨query', fragment, ?_, hbare⟩
  rw [read, clean_text hscheme hauthority]
  simp only [cutScheme_eq hscheme, cutAuthority_append_of_ends hfound (takeWhile_tail path query),
    hcut, hcut']

/-- The text of a URL in plain words is read again, its path without what does not count. -/
theorem read_text {scheme authority path : Text} (query : Text) (hscheme : isScheme scheme = true)
    (hauthority : Readable authority) (hquestion : '?' ∉ path) (hhash : '#' ∉ path) :
    ∃ query' fragment,
      read (text ⟨scheme, authority, path, query, []⟩) =
          .ok ⟨scheme, authority, (rooted path).filter (!isDropped ·), query', fragment⟩ ∧
        (query = [] → query' = [] ∧ fragment = []) := by
  obtain ⟨query', fragment, hread, hbare⟩ := read_text_eq query hscheme hauthority.notEmpty
    (fun c hc => (hauthority.chars c hc).1) hquestion hhash
  refine ⟨query', fragment, ?_, hbare⟩
  rw [hread, hauthority.filter_eq, hauthority.checkBrackets_eq, hauthority.checkDeceptive_eq]
  rfl

/-- So is a path alone that begins with one slash and holds nothing that does not count. -/
theorem read_path {path : Text} (query : Text) (hslash : path.head? ≠ some '/')
    (hdropped : ∀ c ∈ path, isDropped c = false) (hquestion : '?' ∉ path) (hhash : '#' ∉ path) :
    ∃ query' fragment,
      read ('/' :: path ++ if query = [] then [] else '?' :: query) =
          .ok ⟨[], [], '/' :: path, query', fragment⟩ ∧
        (query = [] → query' = [] ∧ fragment = []) := by
  have hmark : ∀ mark, mark ≠ '/' → mark ∉ path → mark ∉ '/' :: path := by
    intro mark hne hpath
    exact List.not_mem_cons_of_ne_of_not_mem hne hpath
  obtain ⟨before, query', fragment, hcut, hcut', hbare⟩ :=
    cut_query (hmark '?' (by decide) hquestion) (hmark '#' (by decide) hhash) query
  refine ⟨query', fragment, ?_, hbare⟩
  have hclean : (('/' :: path ++ if query = [] then [] else '?' :: query).dropWhile fun c =>
      c.toNat ≤ 0x20).filter (!isDropped ·) =
        '/' :: path ++ (if query = [] then [] else '?' :: query).filter (!isDropped ·) := by
    have hkeep : ('/' :: path).filter (!isDropped ·) = '/' :: path := by
      rw [List.filter_eq_self]
      intro c hc
      rcases List.mem_cons.mp hc with rfl | hc
      · decide
      · rw [hdropped c hc]
        rfl
    rw [List.cons_append, List.dropWhile_cons_of_neg (by decide), ← List.cons_append,
      List.filter_append, hkeep]
  have hauthority : ∀ rest : Text, (path ++ rest).head? ≠ some '/' →
      cutAuthority ('/' :: (path ++ rest)) = ([], '/' :: (path ++ rest)) := by
    intro rest hrest
    unfold cutAuthority
    split
    · rename_i h
      rw [List.cons.injEq] at h
      exact absurd (by rw [h.2]; rfl) hrest
    · rfl
  have hrest : (path ++ (if query = [] then [] else '?' :: query).filter (!isDropped ·)).head? ≠
      some '/' := by
    cases path with
    | nil =>
        rw [List.nil_append]
        split
        · nofun
        · rw [List.filter_cons_of_pos (by decide)]
          simp
    | cons c path => exact hslash
  rw [read, hclean, List.cons_append]
  simp only [cutScheme_slash, hauthority _ hrest]
  rw [← List.cons_append, hcut]
  simp only [hcut']
  rfl

end Url

namespace Request

theorem not_mem_flatMap_pathChar {mark : Char} (h : mark = '?' ∨ mark = '#') (path : Text) :
    mark ∉ path.flatMap pathChar := by
  rw [List.mem_flatMap]
  rintro ⟨c, -, hc⟩
  unfold pathChar at hc
  split at hc
  · rcases h with rfl | rfl <;> exact absurd hc (by decide)
  split at hc
  · rcases h with rfl | rfl <;> exact absurd hc (by decide)
  split at hc
  · rcases h with rfl | rfl <;> exact absurd hc (by decide)
  · rename_i hquestion hhash _
    rcases h with rfl | rfl
    · exact hquestion (List.mem_singleton.mp hc).symm
    · exact hhash (List.mem_singleton.mp hc).symm

variable {r : Request}

/-- How a request names where it goes in plain words: by a Host header with a name and perhaps a
port; without one, by the name of the server that it reaches and a scheme for which a port is expected;
or not at all, with a path in which everything counts. -/
inductive PlainlyAddressed (r : Request) : Prop
  | host (host : Text) (scheme : Url.isScheme r.scheme = true)
      (named : r.headers.first? "host".toList = some host)
      (valid : Url.isAuthority host = true) (plain : host.head? ≠ some '[')
  | server (name : Text) (port expected : Int) (scheme : defaultPort? r.scheme = some expected)
      (unnamed : r.headers.first? "host".toList = none) (server : r.server = some (name, port))
      (valid : name ≠ []) (plain : name.all Url.isHostChar = true)
  | nowhere (unnamed : r.headers.first? "host".toList = none) (server : r.server = none)
      (rooted : r.path.head? = some '/') (kept : ∀ c ∈ r.path, Url.isDropped c = false)

/-- The path of a request as it is shown where it is plainly addressed. -/
def plainPath (r : Request) : Text :=
  if (r.headers.first? "host".toList).isNone ∧ r.server = none then
    barePath (r.path.flatMap pathChar)
  else (Url.rooted (r.path.flatMap pathChar)).filter (!Url.isDropped ·)

theorem isPlainChar_of_isDigit {c : Char} (h : c.isDigit = true) : Url.isPlainChar c = true := by
  simp only [Url.isPlainChar, Url.isHostChar, Char.isAlphanum, h, Bool.or_true, Bool.true_or]

theorem isPlainChar_of_isHostChar {c : Char} (h : Url.isHostChar c = true) :
    Url.isPlainChar c = true := by
  simp only [Url.isPlainChar, h, Bool.true_or]

theorem isPlainChar_of_mem_ofInt {c : Char} {n : Int} (h : c ∈ Text.ofInt n) :
    Url.isPlainChar c = true := by
  cases n with
  | ofNat n => exact isPlainChar_of_isDigit (Nat.isDigit_of_mem_toDigits (by decide) (by decide) h)
  | negSucc n =>
      rcases List.mem_cons.mp h with rfl | h
      · decide
      · exact isPlainChar_of_isDigit (Nat.isDigit_of_mem_toDigits (by decide) (by decide) h)

theorem isScheme_of_defaultPort? {scheme : Text} {port : Int}
    (h : defaultPort? scheme = some port) : Url.isScheme scheme = true := by
  rw [defaultPort?] at h
  split at h
  · rename_i hscheme
    rcases hscheme with rfl | rfl <;> decide
  split at h
  · rename_i hscheme
    rcases hscheme with rfl | rfl <;> decide
  · cases h

theorem isPlain_of_isAuthority {host : Text} (hvalid : Url.isAuthority host = true)
    (hplain : host.head? ≠ some '[') : Url.IsPlain host := by
  have hsplit : (!(host.takeWhile Url.isHostChar).isEmpty) = true ∧
      Url.isPortPart (host.dropWhile Url.isHostChar) = true := by
    unfold Url.isAuthority at hvalid
    split at hvalid
    · exact absurd rfl hplain
    · simpa only [Bool.and_eq_true] using hvalid
  obtain ⟨hname, hport⟩ := hsplit
  have hwhole := List.takeWhile_append_dropWhile (p := Url.isHostChar) (l := host)
  refine ⟨?_, fun c hc => ?_⟩
  · rintro rfl
    cases hname
  · rw [← hwhole] at hc
    rcases List.mem_append.mp hc with hc | hc
    · exact isPlainChar_of_isHostChar (List.all_eq_true.mp List.all_takeWhile c hc)
    · unfold Url.isPortPart at hport
      split at hport
      · rename_i hnil
        rw [hnil] at hc
        cases hc
      · rename_i digits hdigits
        rw [hdigits] at hc
        simp only [Bool.and_eq_true] at hport
        rcases List.mem_cons.mp hc with rfl | hc
        · decide
        · exact isPlainChar_of_isDigit (List.all_eq_true.mp hport.1.2 c hc)
      · cases hport

/-- The authority of a plainly addressed request. -/
theorem isPlain_of_server {name : Text} (hvalid : name ≠ []) (hplain : name.all Url.isHostChar = true)
    (port expected : Int) :
    bracketed name = name ∧
      Url.IsPlain (if port = expected then name else name ++ ':' :: Text.ofInt port) := by
  have hchars := List.all_eq_true.mp hplain
  refine ⟨?_, ?_, fun c hc => ?_⟩
  · rw [bracketed, if_neg]
    rintro ⟨hcolon, -⟩
    have := hchars ':' (by simpa using hcolon)
    exact absurd this (by decide)
  · split
    · exact hvalid
    · simp
  · split at hc
    · exact isPlainChar_of_isHostChar (hchars c hc)
    · rcases List.mem_append.mp hc with hc | hc
      · exact isPlainChar_of_isHostChar (hchars c hc)
      · rcases List.mem_cons.mp hc with rfl | hc
        · decide
        · exact isPlainChar_of_mem_ofInt hc

/-- The URL of a request with an authority that is read again. -/
theorem url_eq_of_authority {authority : Text} (hscheme : Url.isScheme r.scheme = true)
    (hreached : r.authority? = .ok (some authority)) (hauthority : Url.Readable authority) :
    ∃ query fragment, r.url = .ok ⟨r.scheme, authority,
        (Url.rooted (r.path.flatMap pathChar)).filter (!Url.isDropped ·), query, fragment⟩ ∧
      (r.query = [] → query = [] ∧ fragment = []) := by
  obtain ⟨query, fragment, hread, hbare⟩ := Url.read_text r.query hscheme hauthority
    (not_mem_flatMap_pathChar (Or.inl rfl) r.path) (not_mem_flatMap_pathChar (Or.inr rfl) r.path)
  refine ⟨query, fragment, ?_, hbare⟩
  rw [url, urlText, hreached]
  exact hread

theorem url_of_authority {authority : Text} (hscheme : Url.isScheme r.scheme = true)
    (hreached : r.authority? = .ok (some authority)) (hauthority : Url.Readable authority) :
    ∃ u, r.url = .ok u ∧
      u.path = (Url.rooted (r.path.flatMap pathChar)).filter (!Url.isDropped ·) := by
  obtain ⟨query, fragment, hurl, -⟩ := url_eq_of_authority hscheme hreached hauthority
  exact ⟨_, hurl, rfl⟩

/-- Where a request reaches its site that names no host and comes in at a server with a plain name. -/
theorem authority?_of_server {name : Text} {port expected : Int}
    (hscheme : defaultPort? r.scheme = some expected)
    (hunnamed : r.headers.first? "host".toList = none) (hserver : r.server = some (name, port))
    (hvalid : name ≠ []) (hplain : name.all Url.isHostChar = true) :
    r.authority? =
      .ok (some (if port = expected then name else name ++ ':' :: Text.ofInt port)) := by
  obtain ⟨hbracketed, -⟩ := isPlain_of_server hvalid hplain port expected
  simp only [authority?, hunnamed, Option.filter_none, hserver, hscheme, hbracketed]

theorem not_isDropped_flatMap {path : Text} (h : ∀ c ∈ path, Url.isDropped c = false) :
    ∀ c ∈ path.flatMap pathChar, Url.isDropped c = false := by
  intro c hc
  obtain ⟨d, hd, hc⟩ := List.mem_flatMap.mp hc
  have hcodes : ∀ t ∈ ["%3F", "%23", "%5C"], ∀ c ∈ t.toList, Url.isDropped c = false := by
    simp [Url.isDropped]
  unfold pathChar at hc
  split at hc
  · exact hcodes "%3F" (by decide) c hc
  split at hc
  · exact hcodes "%23" (by decide) c hc
  split at hc
  · exact hcodes "%5C" (by decide) c hc
  · rw [List.mem_singleton.mp hc]
    exact h d hd

/-- A path alone begins with one slash, and nothing is added to it that would not be read again. -/
theorem barePath_eq (path : Text) :
    ∃ rest, barePath ('/' :: path) = '/' :: rest ∧ rest.head? ≠ some '/' ∧
      ∀ c ∈ rest, c ∈ path ∨ c ∈ "%2F".toList := by
  cases path with
  | nil => exact ⟨[], rfl, nofun, nofun⟩
  | cons c path =>
      by_cases hc : c = '/'
      · refine ⟨"%2F".toList ++ path, by rw [hc]; rfl, nofun, fun d hd => ?_⟩
        rcases List.mem_append.mp hd with hd | hd
        · exact Or.inr hd
        · exact Or.inl (List.mem_cons_of_mem _ hd)
      · refine ⟨c :: path, ?_, by simpa using hc, fun d hd => Or.inl hd⟩
        unfold barePath
        split
        · rename_i h
          simp only [List.cons.injEq] at h
          exact absurd h.2.1 hc
        · rfl

/-- The URL of a request without any authority. -/
theorem url_eq_of_nowhere (hreached : r.authority? = .ok none) (hrooted : r.path.head? = some '/')
    (hkept : ∀ c ∈ r.path, Url.isDropped c = false) :
    ∃ query fragment,
      r.url = .ok ⟨[], [], barePath (r.path.flatMap pathChar), query, fragment⟩ ∧
        (r.query = [] → query = [] ∧ fragment = []) := by
  obtain ⟨q, hq⟩ := List.head?_eq_some_iff.mp hrooted
  have hshown : r.path.flatMap pathChar = '/' :: q.flatMap pathChar := by
    rw [hq]
    rfl
  have hdropped := not_isDropped_flatMap hkept
  have hquestion := not_mem_flatMap_pathChar (Or.inl rfl) r.path
  have hhash := not_mem_flatMap_pathChar (Or.inr rfl) r.path
  rw [hshown] at hdropped hquestion hhash ⊢
  obtain ⟨path, hpath, hslash, hmem⟩ := barePath_eq (q.flatMap pathChar)
  have hmark : ∀ mark, mark ∉ "%2F".toList → mark ∉ '/' :: q.flatMap pathChar → mark ∉ path := by
    intro mark hcode hnot h
    rcases hmem mark h with h | h
    · exact hnot (List.mem_cons_of_mem _ h)
    · exact hcode h
  have hkeep : ∀ c ∈ path, Url.isDropped c = false := by
    intro c hc
    have hcode : ∀ c ∈ "%2F".toList, Url.isDropped c = false := by
      simp [Url.isDropped]
    rcases hmem c hc with hc | hc
    · exact hdropped c (List.mem_cons_of_mem _ hc)
    · exact hcode c hc
  obtain ⟨query, fragment, hread, hbare⟩ := Url.read_path r.query hslash hkeep
    (hmark '?' (by decide) hquestion) (hmark '#' (by decide) hhash)
  refine ⟨query, fragment, ?_, hbare⟩
  rw [url, urlText, hreached]
  simp only [bind, Except.bind, pure, Except.pure, hshown, hpath]
  exact hread

theorem url_of_nowhere (hreached : r.authority? = .ok none) (hrooted : r.path.head? = some '/')
    (hkept : ∀ c ∈ r.path, Url.isDropped c = false) :
    ∃ u, r.url = .ok u ∧ u.path = barePath (r.path.flatMap pathChar) := by
  obtain ⟨query, fragment, hurl, -⟩ := url_eq_of_nowhere hreached hrooted hkept
  exact ⟨_, hurl, rfl⟩

/-- The URL of a plainly addressed request can be read, and its path is that of the request. -/
theorem PlainlyAddressed.url_eq (h : r.PlainlyAddressed) :
    ∃ u, r.url = .ok u ∧ u.path = r.plainPath := by
  rcases h with ⟨host, hscheme, hnamed, hvalid, hplain⟩ |
    ⟨name, port, expected, hscheme, hunnamed, hserver, hvalid, hplain⟩ |
    ⟨hunnamed, hserver, hrooted, hkept⟩
  · have hreached : r.authority? = .ok (some host) := by
      rw [authority?, hnamed, Option.filter_some, if_pos hvalid]
    rw [plainPath, hnamed, if_neg (by simp)]
    exact url_of_authority hscheme hreached (isPlain_of_isAuthority hvalid hplain).readable
  · have hreached := authority?_of_server hscheme hunnamed hserver hvalid hplain
    obtain ⟨-, hauthority⟩ := isPlain_of_server hvalid hplain port expected
    rw [plainPath, hserver, if_neg (by simp)]
    exact url_of_authority (isScheme_of_defaultPort? hscheme) hreached hauthority.readable
  · have hreached : r.authority? = .ok none := by
      simp only [authority?, hunnamed, Option.filter_none, hserver]
    rw [plainPath, hunnamed, hserver, if_pos ⟨rfl, rfl⟩]
    exact url_of_nowhere hreached hrooted hkept

theorem PlainlyAddressed.shownPath_eq (h : r.PlainlyAddressed) : r.shownPath = .ok r.plainPath := by
  obtain ⟨u, hurl, hpath⟩ := h.url_eq
  rw [shownPath, hurl, ← hpath]
  rfl

end Request

end StaticSite
