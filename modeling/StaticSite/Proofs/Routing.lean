import Mathlib.Data.List.Infix
import StaticSite.Proofs.Cuts
import StaticSite.Site.App

/-! Where a mount divides a path. What it matches is a front, a slash and the rest of the line, after
which the path may end in a line break; and the file for a path without such a break is the one that
the rest tells, wherever the site stands. -/

namespace StaticSite

theorem Text.trimEnd_prefix (drop : Char → Bool) (t : Text) : trimEnd drop t <+: t := by
  have hsuffix : (t.reverse.dropWhile drop).reverse <+: t.reverse.reverse :=
    List.reverse_prefix.mpr (List.dropWhile_suffix drop)
  rwa [List.reverse_reverse] at hsuffix

namespace Mount

/-- A path as a mount divides it: what it stands below, the rest, and perhaps a line break. -/
structure Divides (t before rest after : Text) : Prop where
  whole : t = before ++ '/' :: (rest ++ after)
  line : '\n' ∉ rest
  closing : after = [] ∨ after = ['\n']

theorem divides_of_matchRest? {t : Text} {found : Match} (h : matchRest? t = some found) :
    ∃ after, Divides t [] found.rest after := by
  unfold matchRest? at h
  split at h
  · rename_i rest
    simp only at h
    split at h
    · rename_i hclosing
      cases h
      have hwhole := List.prefix_iff_eq_append.mp (List.takeWhile_prefix (l := rest) (· != '\n'))
      refine ⟨_, congrArg ('/' :: ·) hwhole.symm, fun hmem => ?_, hclosing⟩
      have := List.all_eq_true.mp List.all_takeWhile _ hmem
      revert this
      decide
    · cases h
  · cases h

/-- A path that fits some pieces is divided behind them. -/
theorem divides_of_matchPieces? {pieces : List MountPiece} {t : Text} {found : Match}
    (h : matchPieces? pieces t = some found) : ∃ before after, Divides t before found.rest after := by
  induction pieces generalizing t found with
  | nil => exact ⟨[], divides_of_matchRest? h⟩
  | cons piece pieces ih =>
      have hfront : ∀ front t found, matchPieces? pieces t = some found →
          ∃ before after, Divides (front ++ t) before found.rest after := by
        intro front t found h
        obtain ⟨before, after, hdivides⟩ := ih h
        exact ⟨front ++ before, after, by rw [hdivides.whole, List.append_assoc], hdivides.line,
          hdivides.closing⟩
      cases piece with
      | literal c =>
          unfold matchPieces? at h
          split at h
          · rename_i d rest
            split at h
            · exact hfront [d] rest found h
            · cases h
          · cases h
      | parameter name kind =>
          obtain ⟨n, -, hn⟩ := List.exists_of_findSome?_eq_some h
          obtain ⟨inner, hinner, rfl⟩ := Option.map_eq_some_iff.mp hn
          have hdivides := hfront (t.take n) (t.drop n) inner hinner
          rwa [List.take_append_drop] at hdivides

theorem divides_of_match? {m : Mount} {t rest : Text} (h : m.match? t = .ok (some rest)) :
    ∃ before after, Divides t before rest after := by
  unfold match? at h
  split at h
  · cases h
  · rename_i found hfound
    split at h
    · cases h
    · cases h
      exact divides_of_matchPieces? hfound

/-- The pattern of a prefix is empty or begins with a slash. -/
theorem pieces_of_ofPrefix {urlPrefix : Text} {m : Mount} (h : ofPrefix urlPrefix = .ok m) :
    m.pieces = [] ∨ ∃ rest, m.pieces = .literal '/' :: rest := by
  unfold ofPrefix at h
  split at h
  · rename_i hprefix
    simp only at h
    split at h
    · cases h
    rename_i pieces hpieces
    split at h
    · cases h
      cases hpath : trimmed urlPrefix with
      | nil =>
          rw [hpath] at hpieces
          cases hpieces
          exact Or.inl rfl
      | cons c path =>
          obtain ⟨after, hafter⟩ := Text.trimEnd_prefix (· == '/') urlPrefix
          have hc : c = '/' := by
            rw [trimmed] at hpath
            rw [hpath] at hafter
            rw [← hafter] at hprefix
            simpa using hprefix
          rw [hpath, hc, List.length_cons, piecesWithin] at hpieces
          simp only [show ¬ '/' = '{' by decide, if_false] at hpieces
          cases hrest : piecesWithin path.length path with
          | error e =>
              rw [hrest] at hpieces
              cases hpieces
          | ok rest =>
              rw [hrest] at hpieces
              cases hpieces
              exact Or.inr ⟨rest, rfl⟩
    · cases h
  · cases h

/-- What is mounted at a prefix takes paths that begin with a slash. -/
theorem exists_cons_of_match? {urlPrefix : Text} {m : Mount} (hmount : ofPrefix urlPrefix = .ok m)
    {t rest : Text} (h : m.match? t = .ok (some rest)) : ∃ path, t = '/' :: path := by
  unfold match? at h
  split at h
  · cases h
  rename_i found hfound
  rcases pieces_of_ofPrefix hmount with hpieces | ⟨pieces, hpieces⟩
  · rw [hpieces] at hfound
    obtain ⟨after, hdivides⟩ := divides_of_matchRest? hfound
    exact ⟨_, hdivides.whole⟩
  · rw [hpieces] at hfound
    unfold matchPieces? at hfound
    split at hfound
    · split at hfound
      · rename_i d path hd
        exact ⟨path, by rw [hd]⟩
      · cases hfound
    · cases hfound

/-! ### Prefixes without parameters -/

/-- After a slash a line is taken whole, at the end of a text or before a last break. -/
theorem matchRest?_iff {t : Text} {found : Match} :
    matchRest? t = some found ↔ found.values = [] ∧ ∃ after, Divides t [] found.rest after := by
  constructor
  · intro h
    refine ⟨?_, divides_of_matchRest? h⟩
    unfold matchRest? at h
    split at h
    · simp only at h
      split at h
      · cases h
        rfl
      · cases h
    · cases h
  · rintro ⟨hvalues, after, hwhole, hline, hclosing⟩
    obtain ⟨values, rest⟩ := found
    obtain rfl : values = [] := hvalues
    have hchars : ∀ c ∈ rest, (c != '\n') = true := by
      intro c hc
      rw [bne_iff_ne]
      rintro rfl
      exact hline hc
    have hnone : after.takeWhile (· != '\n') = [] := by
      rcases hclosing with rfl | rfl <;> rfl
    have htaken : (rest ++ after).takeWhile (· != '\n') = rest := by
      rw [List.takeWhile_append_of_pos hchars, hnone, List.append_nil]
    rw [hwhole]
    simp only [List.nil_append, matchRest?, htaken, List.drop_left, hclosing, if_true]

theorem matchPieces?_literal (front t : Text) :
    matchPieces? (front.map .literal) t = (front.isPrefixOf? t).bind matchRest? := by
  induction front generalizing t with
  | nil => rfl
  | cons c front ih =>
      cases t with
      | nil => rfl
      | cons d rest =>
          rw [List.map_cons, matchPieces?, ih, List.isPrefixOf?]
          by_cases hc : c = d
          · rw [if_pos hc.symm, if_pos (beq_iff_eq.mpr hc)]
          · rw [if_neg (Ne.symm hc), if_neg (fun h => hc (beq_iff_eq.mp h))]
            rfl

/-- A mount without parameters takes the paths that begin as it does, and none of them fails. -/
theorem match?_literal (front t : Text) :
    match? ⟨front.map .literal⟩ t = .ok (((front.isPrefixOf? t).bind matchRest?).map (·.rest)) := by
  rw [match?, matchPieces?_literal]
  cases hfound : (front.isPrefixOf? t).bind matchRest? with
  | none => rfl
  | some found =>
      obtain ⟨t', -, hrest⟩ := Option.bind_eq_some_iff.mp hfound
      obtain ⟨hvalues, -⟩ := matchRest?_iff.mp hrest
      simp only [hvalues]
      rfl

theorem match?_literal_iff {front t rest : Text} :
    match? ⟨front.map .literal⟩ t = .ok (some rest) ↔ ∃ after, Divides t front rest after := by
  rw [match?_literal, Except.ok.injEq, Option.map_eq_some_iff]
  constructor
  · rintro ⟨found, hfound, rfl⟩
    obtain ⟨t', hfront, hrest⟩ := Option.bind_eq_some_iff.mp hfound
    obtain ⟨-, after, hdivides⟩ := matchRest?_iff.mp hrest
    refine ⟨after, ?_, hdivides.line, hdivides.closing⟩
    rw [← List.isPrefixOf?_eq_some_iff_append_eq.mp hfront, hdivides.whole, List.nil_append]
  · rintro ⟨after, hdivides⟩
    have hfront : front.isPrefixOf? t = some ('/' :: (rest ++ after)) :=
      List.isPrefixOf?_eq_some_iff_append_eq.mpr hdivides.whole.symm
    have hrest : Divides ('/' :: (rest ++ after)) [] rest after :=
      ⟨rfl, hdivides.line, hdivides.closing⟩
    have hfound : matchRest? ('/' :: (rest ++ after)) = some ⟨[], rest⟩ :=
      matchRest?_iff.mpr ⟨rfl, after, hrest⟩
    exact ⟨⟨[], rest⟩, by rw [hfront]; exact hfound, rfl⟩

/-- At the top a mount takes each line. -/
theorem match?_top {rest : Text} (h : '\n' ∉ rest) : match? ⟨[]⟩ ('/' :: rest) = .ok (some rest) := by
  have hdivides : Divides ('/' :: rest) [] rest [] := ⟨by rw [List.append_nil]; rfl, h, Or.inl rfl⟩
  exact match?_literal_iff.mpr ⟨[], hdivides⟩

/-- There are no parameters at the top, so no path fails to be matched. -/
theorem exists_match?_top (t : Text) : ∃ found, match? ⟨[]⟩ t = .ok found :=
  ⟨_, match?_literal [] t⟩

/-- Without a brace in it a text stands for itself. -/
theorem piecesWithin_of_not_mem {t : Text} (h : '{' ∉ t) :
    piecesWithin t.length t = .ok (t.map .literal) := by
  induction t with
  | nil => rfl
  | cons c rest ih =>
      have hc : c ≠ '{' := fun hc => h (hc ▸ List.mem_cons_self)
      have hrest : '{' ∉ rest := fun hmem => h (List.mem_cons_of_mem c hmem)
      rw [List.length_cons, piecesWithin, if_neg hc, ih hrest]
      rfl

/-- So does a prefix, without the slashes at its end, if it begins with a slash or is empty. -/
theorem ofPrefix_of_not_mem {urlPrefix : Text} (hslash : urlPrefix = [] ∨ urlPrefix.head? = some '/')
    (h : '{' ∉ urlPrefix) : ofPrefix urlPrefix = .ok ⟨(trimmed urlPrefix).map .literal⟩ := by
  obtain ⟨slashes, hslashes⟩ := Text.trimEnd_prefix (· == '/') urlPrefix
  have htrimmed : '{' ∉ trimmed urlPrefix := by
    intro hmem
    apply h
    rw [← hslashes]
    exact List.mem_append_left slashes hmem
  have hnames : names ((trimmed urlPrefix).map .literal) = [] := by
    rw [names, List.filterMap_map, List.filterMap_eq_nil_iff]
    exact fun _ _ => rfl
  have hsingle : duplicates [restName] = [] := by simp [duplicates]
  rw [ofPrefix, if_pos hslash]
  simp only [piecesWithin_of_not_mem htrimmed, hnames, List.nil_append, hsingle]

/-- What is mounted at a prefix without braces stands for the prefix itself. -/
theorem eq_of_ofPrefix {urlPrefix : Text} {m : Mount} (h : ofPrefix urlPrefix = .ok m)
    (hbraces : '{' ∉ urlPrefix) : m = ⟨(trimmed urlPrefix).map .literal⟩ := by
  by_cases hslash : urlPrefix = [] ∨ urlPrefix.head? = some '/'
  · rw [ofPrefix_of_not_mem hslash hbraces] at h
    exact (Except.ok.inj h).symm
  · rw [ofPrefix, if_neg hslash] at h
    cases h

theorem ofPrefix_slash : ofPrefix ['/'] = .ok ⟨[]⟩ := by
  have hnone : duplicates (names [] ++ [restName]) = [] := by
    simp [duplicates, names]
  simp only [ofPrefix, trimmed, List.head?_cons, or_true, if_true]
  rw [show Text.trimEnd (· == '/') ['/'] = [] from rfl]
  simp only [piecesWithin, hnone, List.length_nil]

end Mount

/-- The path of a request as it is seen from where the site as a whole is said to stand. -/
def Request.decoded (r : Request) : Text :=
  Percent.decode (Url.cutAt '?' r.target).1

namespace App

/-- A path below the place of a site is seen from there. -/
theorem routePath_append (rootPath rest : Text) :
    routePath rootPath (rootPath ++ '/' :: rest) = '/' :: rest := by
  rw [routePath]
  split
  · rename_i hnil
    rw [hnil, List.nil_append]
  · simp only [Text.isPrefixOf?_append]

theorem routePath_decoded {r : Request} {path : Text} (h : r.decoded = '/' :: path) :
    routePath r.rootPath r.path = r.decoded := by
  rw [Request.path, ← Request.decoded, h, routePath_append]

/-- The file for a path without a line break at its end is the one that the rest tells. -/
theorem filePath_eq {r : Request} {before rest : Text}
    (hpath : r.path = r.rootPath ++ (before ++ '/' :: rest)) :
    filePath r (before ++ '/' :: rest) rest = Path.reduce (Path.ofText ('/' :: rest)) := by
  have hbefore : (before ++ '/' :: rest).take
      ((before ++ '/' :: rest).length - (rest.length + 1)) = before := by
    rw [List.length_append, List.length_cons, Nat.add_sub_cancel]
    exact List.take_left
  rw [filePath, hbefore, hpath, ← List.append_assoc, routePath_append]

/-- A place that ends in a slash is left out of a path below it only if another slash follows. -/
theorem routePath_slash (front : Text) {rest : Text} (h : rest ≠ []) :
    routePath (front ++ ['/']) (front ++ '/' :: rest) =
      if rest.head? = some '/' then rest else front ++ '/' :: rest := by
  have hfront : front ++ '/' :: rest = (front ++ ['/']) ++ rest := by
    rw [List.append_assoc, List.singleton_append]
  obtain ⟨c, rest, rfl⟩ := List.exists_cons_of_ne_nil h
  rw [routePath, if_neg (by simp), hfront, Text.isPrefixOf?_append]
  by_cases hc : c = '/'
  · rw [hc]
    rfl
  · rw [if_neg (by simpa using hc)]
    split
    · rename_i hnil
      cases hnil
    · rename_i hslash
      cases hslash
      exact absurd rfl hc
    · rfl

/-- Where a line break follows the rest of a path, the place of the site ends in the slash before. -/
theorem filePath_break {r : Request} {before rest : Text}
    (hpath : r.path = r.rootPath ++ (before ++ '/' :: (rest ++ ['\n']))) :
    filePath r (before ++ '/' :: (rest ++ ['\n'])) rest =
      Path.reduce (Path.ofText
        (if rest.head? = some '/' then rest ++ ['\n'] else r.path)) := by
  have hbefore : (before ++ '/' :: (rest ++ ['\n'])).take
      ((before ++ '/' :: (rest ++ ['\n'])).length - (rest.length + 1)) = before ++ ['/'] := by
    have hlength : (before ++ '/' :: (rest ++ ['\n'])).length - (rest.length + 1) =
        (before ++ ['/']).length := by
      simp only [List.length_append, List.length_cons, List.length_nil]
      omega
    have hsplit : before ++ '/' :: (rest ++ ['\n']) = (before ++ ['/']) ++ (rest ++ ['\n']) := by
      rw [List.append_assoc, List.singleton_append]
    rw [hlength, hsplit]
    exact List.take_left
  have hhead : (rest ++ ['\n']).head? = some '/' ↔ rest.head? = some '/' := by
    cases rest <;> simp
  have hfront : r.rootPath ++ (before ++ ['/']) = (r.rootPath ++ before) ++ ['/'] :=
    (List.append_assoc _ _ _).symm
  have hwhole : r.path = (r.rootPath ++ before) ++ '/' :: (rest ++ ['\n']) :=
    hpath.trans (List.append_assoc _ _ _).symm
  rw [filePath, hbefore, hfront, hwhole, routePath_slash _ (by simp)]
  simp only [hhead]

end App

end StaticSite
