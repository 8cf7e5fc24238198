import StaticSite.Proofs.Redirects

/-! A path in the location of a redirect. What ends a path in a URL is coded first, then what a
location may not hold; the percent sign stays. So the path is read again as it was, unless it holds a
code of its own, which is taken for what it stands for, or a character that does not count in a URL. -/

namespace StaticSite

namespace Percent

/-- Whether a text begins with two hexadecimal digits, as a code does behind its sign. -/
def beginsCode (t : Text) : Bool :=
  match t with
  | a :: b :: _ => (Text.hexValue? a).isSome && (Text.hexValue? b).isSome
  | _ => false

/-- Whether a text holds a code. -/
def holdsCode : Text → Bool
  | [] => false
  | c :: rest => (c == '%' && beginsCode rest) || holdsCode rest

/-- A sign that begins no code stands for itself. -/
theorem octets_sign {t : Text} (h : beginsCode t = false) :
    octets ('%' :: t) = String.utf8EncodeChar '%' ++ octets t := by
  rw [octets.eq_def]
  simp only [if_true]
  split
  · rename_i a b after
    rw [beginsCode] at h
    split
    · rename_i ha hb
      rw [ha, hb] at h
      cases h
    · rfl
  · rfl

/-- Whether a text begins with a hexadecimal digit. -/
def beginsDigit (t : Text) : Bool :=
  t.head?.any fun c => (Text.hexValue? c).isSome

/-- What does not begin with a digit cannot make a code of what stands before it. -/
theorem beginsCode_append {t : Text} (h : beginsDigit t = false) (s : Text) :
    beginsCode (s ++ t) = beginsCode s := by
  have hfirst : ∀ c rest, t = c :: rest → (Text.hexValue? c).isSome = false := by
    rintro c rest rfl
    exact h
  match s with
  | [] =>
      match t with
      | [] => rfl
      | [c] => rfl
      | c :: d :: rest => simp [beginsCode, hfirst c _ rfl]
  | [a] =>
      match t with
      | [] => rfl
      | c :: rest => simp [beginsCode, hfirst c _ rfl]
  | a :: b :: s => rfl

theorem holdsCode_append {t : Text} (h : beginsDigit t = false) (s : Text) :
    holdsCode (s ++ t) = (holdsCode s || holdsCode t) := by
  induction s with
  | nil => rfl
  | cons c s ih =>
      rw [List.cons_append, holdsCode, holdsCode, ih, beginsCode_append h, Bool.or_assoc]

end Percent

/-- A path of names holds a code only if one of them or what stands behind them does. -/
theorem Location.holdsCode_path {names : Location}
    (h : ∀ name ∈ names, Percent.holdsCode name = false) {tail : Text}
    (hfirst : Percent.beginsDigit tail = false) (htail : Percent.holdsCode tail = false) :
    Percent.holdsCode (names.flatMap ('/' :: ·) ++ tail) = false := by
  induction names with
  | nil => exact htail
  | cons name names ih =>
      obtain ⟨hname, hnames⟩ := List.forall_mem_cons.mp h
      have hrest : Percent.beginsDigit (names.flatMap ('/' :: ·) ++ tail) = false := by
        cases names with
        | nil => exact hfirst
        | cons next names => rfl
      have hwhole : (name :: names).flatMap ('/' :: ·) ++ tail =
          ('/' :: name) ++ (names.flatMap ('/' :: ·) ++ tail) := by
        rw [List.flatMap_cons, List.append_assoc]
      rw [hwhole, Percent.holdsCode_append hrest, ih hnames, Bool.or_false, Percent.holdsCode, hname]
      rfl

namespace Url

open Percent

/-! ### A coded path is read again -/

theorem isKept_of_hexValue? {c : Char} (h : (Text.hexValue? c).isSome = true) :
    isKept isKeptInLocation c = true :=
  isKept_of_isPlainChar (isPlainChar_of_isHex h)

/-- How a character stands in a location: as it is, or in codes. -/
inductive InLocation (c : Char) (t : Text) : Prop
  | kept (whole : t = [c]) (question : c ≠ '?') (hash : c ≠ '#')
  | coded (digit : Text.hexValue? c = none) (sign : c ≠ '%') (begins : t.head? = some '%')
      (digits : ∀ d ∈ t, d = '%' ∨ (Text.hexValue? d).isSome = true)
      (read : ∀ rest, octets (t ++ rest) = String.utf8EncodeChar c ++ octets rest)

theorem InLocation.of_codes {c : Char} {t : Text} (digit : Text.hexValue? c = none) (sign : c ≠ '%')
    (h : t = (String.utf8EncodeChar c).flatMap fun b =>
      ['%', hexDigit (b.toNat / 16), hexDigit (b.toNat % 16)]) : InLocation c t := by
  obtain ⟨b, bytes, hbytes⟩ : ∃ b bytes, String.utf8EncodeChar c = b :: bytes := by
    refine List.exists_cons_of_length_pos ?_
    rw [String.length_utf8EncodeChar]
    exact c.utf8Size_pos
  refine .coded digit sign ?_ ?_ fun rest => ?_
  · rw [h, hbytes]
    rfl
  · intro d hd
    rw [h] at hd
    obtain ⟨b, -, hd⟩ := List.mem_flatMap.mp hd
    exact digit_of_mem_code hd
  · rw [h]
    exact octets_codes _ rest

/-- A character of a path stands as it is in a location, unless it is coded there or ahead of it. -/
theorem inLocation_pathChar (c : Char) : InLocation c (location (Request.pathChar c)) := by
  by_cases hquestion : c = '?'
  · rw [hquestion]
    exact .of_codes (by decide) (by decide) (by decide +kernel)
  by_cases hhash : c = '#'
  · rw [hhash]
    exact .of_codes (by decide) (by decide) (by decide +kernel)
  by_cases hbackslash : c = '\\'
  · rw [hbackslash]
    exact .of_codes (by decide) (by decide) (by decide +kernel)
  rw [Request.pathChar, if_neg hquestion, if_neg hhash, if_neg hbackslash]
  cases hkept : isKept isKeptInLocation c with
  | true => exact .kept (encode_of_kept hkept) hquestion hhash
  | false =>
      have hdigit : Text.hexValue? c = none := by
        cases hvalue : Text.hexValue? c with
        | none => rfl
        | some n =>
            rw [isKept_of_hexValue? (by rw [hvalue]; rfl)] at hkept
            cases hkept
      have hsign : c ≠ '%' := by
        rintro rfl
        revert hkept
        decide
      exact .of_codes hdigit hsign (encode_of_not_kept hkept)

/-- The location of a path, character by character. -/
theorem location_path_cons (c : Char) (path : Text) :
    location ((c :: path).flatMap Request.pathChar) =
      location (Request.pathChar c) ++ location (path.flatMap Request.pathChar) := by
  rw [List.flatMap_cons, location_append]

theorem beginsDigit_location (path : Text) :
    beginsDigit (location (path.flatMap Request.pathChar)) = beginsDigit path := by
  cases path with
  | nil => rfl
  | cons c path =>
      rw [location_path_cons]
      cases inLocation_pathChar c with
      | kept whole =>
          rw [whole]
          rfl
      | coded digit sign begins =>
          obtain ⟨rest, hrest⟩ := List.head?_eq_some_iff.mp begins
          rw [hrest, beginsDigit, beginsDigit, List.head?_cons, Option.any_some, digit]
          rfl

/-- Behind a sign stands a code in a location exactly if one stands there in the path. -/
theorem beginsCode_location (path : Text) :
    beginsCode (location (path.flatMap Request.pathChar)) = beginsCode path := by
  cases path with
  | nil => rfl
  | cons c path =>
      rw [location_path_cons]
      cases inLocation_pathChar c with
      | kept whole =>
          have hnext : ∀ t, beginsCode (c :: t) = ((Text.hexValue? c).isSome && beginsDigit t) := by
            intro t
            cases t <;> simp [beginsCode, beginsDigit]
          rw [whole, List.singleton_append, hnext, hnext, beginsDigit_location]
      | coded digit sign begins =>
          obtain ⟨rest, hrest⟩ := List.head?_eq_some_iff.mp begins
          have hcode : ∀ d t, Text.hexValue? d = none → beginsCode (d :: t) = false := by
            intro d t hd
            cases t <;> simp [beginsCode, hd]
          rw [hrest, List.cons_append, hcode '%' _ (by decide), hcode c _ digit]

theorem octets_location {path : Text} (h : holdsCode path = false) :
    octets (location (path.flatMap Request.pathChar)) = Utf8.encode path := by
  induction path with
  | nil => rfl
  | cons c path ih =>
      rw [holdsCode, Bool.or_eq_false_iff] at h
      obtain ⟨hc, hpath⟩ := h
      rw [location_path_cons, Utf8.encode_cons, ← ih hpath]
      cases inLocation_pathChar c with
      | kept whole =>
          rw [whole, List.singleton_append]
          by_cases hsign : c = '%'
          · rw [hsign, beq_self_eq_true, Bool.true_and] at hc
            rw [hsign]
            exact octets_sign (by rw [beginsCode_location, hc])
          · exact octets_cons hsign _
      | coded _ _ _ _ read => exact read _

/-- A path without codes is read from a location as it was. -/
theorem decode_location {path : Text} (h : holdsCode path = false) :
    decode (location (path.flatMap Request.pathChar)) = path := by
  rw [decode, octets_location h, Utf8.decodeLossy_encode]

/-- The path is whole in the location. -/
theorem not_mem_location {mark : Char} (hmark : mark = '?' ∨ mark = '#') (path : Text) :
    mark ∉ location (path.flatMap Request.pathChar) := by
  induction path with
  | nil => exact List.not_mem_nil
  | cons c path ih =>
      rw [location_path_cons, List.mem_append, not_or]
      refine ⟨fun hmem => ?_, ih⟩
      cases inLocation_pathChar c with
      | kept whole question hash =>
          rw [whole, List.mem_singleton] at hmem
          rcases hmark with rfl | rfl
          · exact question hmem.symm
          · exact hash hmem.symm
      | coded _ _ _ digits =>
          rcases hmark with rfl | rfl
          · exact absurd (digits _ hmem) (by decide)
          · exact absurd (digits _ hmem) (by decide)

theorem not_isDropped_of_isVisible {c : Char} (h : Wire.isVisible c = true) : isDropped c = false := by
  rw [← Bool.not_eq_true]
  simp only [isDropped, Bool.or_eq_true, beq_iff_eq]
  rintro ((rfl | rfl) | rfl) <;> exact absurd h (by decide)

theorem not_isDropped_location (t : Text) : ∀ c ∈ location t, isDropped c = false := by
  intro c hc
  exact not_isDropped_of_isVisible (List.all_eq_true.mp (visible_location t) c hc)

/-! ### A location is read -/

theorem location_slash (t : Text) : location ('/' :: t) = '/' :: location t := by
  have hslash : location ['/'] = ['/'] := by decide +kernel
  rw [← List.singleton_append, location_append, hslash]
  rfl

theorem rooted_slash (t : Text) : rooted ('/' :: t) = '/' :: t := by
  rw [rooted, if_pos rfl]

/-- A location at an authority is read again, its path as it stands there. -/
theorem read_location {scheme authority : Text} (hscheme : isScheme scheme = true)
    (hauthority : Readable authority) (hchars : ∀ c ∈ authority, isNamingChar c = true) {path : Text}
    (hquestion : '?' ∉ location path) (hhash : '#' ∉ location path) (hslash : path.head? = some '/') :
    read (location (text ⟨scheme, authority, path, [], []⟩)) =
      .ok ⟨scheme, authority, location path, [], []⟩ := by
  obtain ⟨rest, rfl⟩ := List.head?_eq_some_iff.mp hslash
  have htext : ∀ t, text ⟨scheme, authority, '/' :: t, [], []⟩ =
      scheme ++ "://".toList ++ authority ++ '/' :: t := by
    intro t
    rw [text, if_neg (isScheme_chars hscheme).1, hierarchy_eq hauthority.notEmpty, rooted_slash]
    simp
  have hlocation : location (text ⟨scheme, authority, '/' :: rest, [], []⟩) =
      text ⟨scheme, authority, location ('/' :: rest), [], []⟩ := by
    rw [htext, location_origin hscheme hchars, ← htext, location_slash]
  obtain ⟨query, fragment, hread, hbare⟩ := read_text [] hscheme hauthority hquestion hhash
  obtain ⟨rfl, rfl⟩ := hbare rfl
  have hkept : (rooted (location ('/' :: rest))).filter (!isDropped ·) = location ('/' :: rest) := by
    rw [location_slash, rooted_slash, ← location_slash, List.filter_eq_self]
    intro c hc
    rw [not_isDropped_location _ c hc]
    rfl
  rw [hlocation, hread, hkept]

/-- So is one that is a path alone, unless it begins with two slashes. -/
theorem read_location_path {path : Text} (hquestion : '?' ∉ location path)
    (hhash : '#' ∉ location path) (hslash : (location path).head? ≠ some '/') :
    read (location (text ⟨[], [], '/' :: path, [], []⟩)) =
      .ok ⟨[], [], location ('/' :: path), [], []⟩ := by
  have htext : text ⟨[], [], '/' :: path, [], []⟩ = '/' :: path := by
    have hno : [] ∉ authoritySchemes := by decide
    simp [text, hierarchy, hno]
  obtain ⟨query, fragment, hread, hbare⟩ :=
    read_path [] hslash (not_isDropped_location path) hquestion hhash
  obtain ⟨rfl, rfl⟩ := hbare rfl
  rw [if_pos rfl, List.append_nil] at hread
  rw [htext, location_slash, hread]

end Url

namespace Request

variable {r : Request} {first : Char} {rest : Text}

/-- How a request is known to reach its site: where its host is known, or without any host by a path in
which everything counts. -/
inductive Addressed (r : Request) : Prop
  | located (h : r.Located)
  | nowhere (h : r.authority? = .ok none) (kept : ∀ c ∈ r.path, Url.isDropped c = false)

theorem exists_pathChar {c : Char} (h : c ≠ '/') : ∃ d rest, pathChar c = d :: rest ∧ d ≠ '/' := by
  unfold pathChar
  split
  · exact ⟨'%', "3F".toList, rfl, by decide⟩
  split
  · exact ⟨'%', "23".toList, rfl, by decide⟩
  split
  · exact ⟨'%', "5C".toList, rfl, by decide⟩
  · exact ⟨c, [], rfl, h⟩

/-- A path that does not begin with two slashes is written as it is, with or without an authority. -/
theorem barePath_path (h : first ≠ '/') :
    barePath (('/' :: first :: rest).flatMap pathChar) = ('/' :: first :: rest).flatMap pathChar := by
  obtain ⟨d, after, hd, hslash⟩ := exists_pathChar h
  have hpath : ('/' :: first :: rest).flatMap pathChar =
      '/' :: d :: (after ++ rest.flatMap pathChar) := by
    rw [List.flatMap_cons, List.flatMap_cons, hd]
    rfl
  rw [hpath, barePath]
  intro t ht
  cases ht
  exact hslash rfl

theorem head?_location_path (h : first ≠ '/') :
    (Url.location ((first :: rest).flatMap pathChar)).head? ≠ some '/' := by
  rw [Url.location_path_cons]
  cases Url.inLocation_pathChar first with
  | kept whole =>
      rw [whole]
      simpa using h
  | coded _ _ begins =>
      obtain ⟨after, hafter⟩ := List.head?_eq_some_iff.mp begins
      rw [hafter]
      simp

/-- Where everything counts in a path that begins with a slash, it is shown whole. -/
theorem filter_rooted_path {path : Text} (hslash : path.head? = some '/')
    (hkept : ∀ c ∈ path, Url.isDropped c = false) :
    (Url.rooted (path.flatMap pathChar)).filter (!Url.isDropped ·) = path.flatMap pathChar := by
  obtain ⟨rest, rfl⟩ := List.head?_eq_some_iff.mp hslash
  have hdropped := not_isDropped_flatMap hkept
  have hbegins : ('/' :: rest).flatMap pathChar = '/' :: rest.flatMap pathChar := rfl
  rw [hbegins] at hdropped ⊢
  rw [Url.rooted_slash, List.filter_eq_self]
  intro c hc
  rw [hdropped c hc]
  rfl

/-- The URL of a request for a path alone in which everything counts, and what is read again of the
location of a redirect from it to the path with a slash. -/
theorem Addressed.url_eq (h : r.Addressed) (hpath : r.path = '/' :: first :: rest)
    (hslash : first ≠ '/') (hquery : r.query = []) (hkept : ∀ c ∈ r.path, Url.isDropped c = false) :
    ∃ u u', r.url = .ok u ∧
      Url.read (Url.location (Url.text { u with path := u.path ++ ['/'] })) = .ok u' ∧
      u'.path = Url.location ((r.path ++ ['/']).flatMap pathChar) ∧ u'.query = [] := by
  have hquestion := Url.not_mem_location (Or.inl rfl) (r.path ++ ['/'])
  have hhash := Url.not_mem_location (Or.inr rfl) (r.path ++ ['/'])
  have hwhole : r.path.flatMap pathChar ++ ['/'] = (r.path ++ ['/']).flatMap pathChar := by
    rw [List.flatMap_append]
    rfl
  cases h with
  | located h =>
      obtain ⟨hscheme, authority, hreached, hauthority, hchars⟩ := h.exists_authority
      obtain ⟨query, fragment, hurl, hbare⟩ := url_eq_of_authority hscheme hreached hauthority
      obtain ⟨rfl, rfl⟩ := hbare hquery
      refine ⟨_, ⟨r.scheme, authority, Url.location ((r.path ++ ['/']).flatMap pathChar), [], []⟩, hurl,
        ?_, rfl, rfl⟩
      rw [filter_rooted_path (by rw [hpath]; rfl) hkept, hwhole]
      exact Url.read_location hscheme hauthority hchars hquestion hhash (by rw [hpath]; rfl)
  | nowhere h =>
      obtain ⟨query, fragment, hurl, hbare⟩ :=
        url_eq_of_nowhere h (by rw [hpath]; rfl) hkept
      obtain ⟨rfl, rfl⟩ := hbare hquery
      have hplain : barePath (r.path.flatMap pathChar) = r.path.flatMap pathChar := by
        rw [hpath]
        exact barePath_path hslash
      refine ⟨_, ⟨[], [], Url.location ((r.path ++ ['/']).flatMap pathChar), [], []⟩, hurl, ?_, rfl, rfl⟩
      have hbegins : (r.path ++ ['/']).flatMap pathChar =
          '/' :: (first :: (rest ++ ['/'])).flatMap pathChar := by
        rw [hpath]
        rfl
      rw [hbegins, Url.location_slash, List.mem_cons, not_or] at hquestion hhash
      rw [hplain, hwhole, hbegins]
      exact Url.read_location_path hquestion.2 hhash.2 (head?_location_path hslash)

theorem Addressed.legible (h : r.Addressed) (hrooted : r.path.head? = some '/') : r.Legible := by
  cases h with
  | located h => exact h.legible
  | nowhere h kept =>
      obtain ⟨u, hu, -⟩ := url_of_nowhere h hrooted kept
      exact ⟨u, hu⟩

end Request

end StaticSite
