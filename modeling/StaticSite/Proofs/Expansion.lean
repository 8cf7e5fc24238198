import StaticSite.Proofs.LetterCase
import StaticSite.Proofs.Quoting

/-! References in the values of a file. A value divides into references and characters that stand for
themselves before anything is known of the names. Then each reference gives way to what its name means,
and what is put in is not looked at again: a text goes through a chain of references as it is, whatever
looks like a reference, a quote or a comment in it. A name that nothing before the line gives a value to,
the line itself included, means the empty text. -/

namespace StaticSite

namespace DotEnv

/-! ### Pieces of a value -/

/-- A piece of a value: a character for itself, or a reference to a name, with what is to stand there
instead if the name has no value. -/
inductive Piece where
  | plain (c : Char)
  | reference (name : Text) (fallback : Option Text)

namespace Piece

/-- A piece as it is written. -/
def text : Piece → Text
  | plain c => [c]
  | reference name none => '$' :: '{' :: (name ++ ['}'])
  | reference name (some fallback) => '$' :: '{' :: (name ++ ':' :: '-' :: (fallback ++ ['}']))

/-- What stands for a piece where some names have values. -/
def meaning (find? : Text → Option Text) : Piece → Text
  | plain c => [c]
  | reference name fallback => (find? name).getD (fallback.getD [])

/-- Whether a piece is a reference of which no part holds a mark that would end it. -/
def Refers : Piece → Prop
  | plain _ => False
  | reference name fallback => '}' ∉ name ∧ ':' ∉ name ∧ ∀ t ∈ fallback, '}' ∉ t

theorem exists_text {p : Piece} (h : p.Refers) : ∃ rest, p.text = '$' :: '{' :: rest := by
  rcases p with c | ⟨name, _ | fallback⟩
  · exact h.elim
  · exact ⟨_, rfl⟩
  · exact ⟨_, rfl⟩

end Piece

/-- The pieces of a text from its start on: a reference where one begins, and a character elsewhere.
Each is told with all that follows it in view. -/
inductive Divides : Text → List Piece → Prop
  | nothing : Divides [] []
  | character {c : Char} {rest : Text} {pieces : List Piece}
      (hnone : ∀ p after, Piece.Refers p → c :: rest ≠ p.text ++ after)
      (hrest : Divides rest pieces) : Divides (c :: rest) (.plain c :: pieces)
  | reference {p : Piece} {rest : Text} {pieces : List Piece} (hp : p.Refers)
      (hrest : Divides rest pieces) : Divides (p.text ++ rest) (p :: pieces)

theorem Divides.append_of_not_refers {t rest : Text} {pieces : List Piece} (h : ¬ Refers t)
    (hjoin : rest.head? ≠ some '{') (hrest : Divides rest pieces) :
    Divides (t ++ rest) (t.map .plain ++ pieces) := by
  induction t with
  | nil => exact hrest
  | cons c t ih =>
      obtain ⟨hhere, hlater⟩ := not_or.mp (refers_cons.not.mp h)
      refine .character (fun p after hp heq => hhere ?_) (ih hlater)
      obtain ⟨inner, htext⟩ := Piece.exists_text hp
      rw [htext] at heq
      obtain ⟨hdollar, hbrace⟩ := List.cons.inj heq
      refine ⟨hdollar, ?_⟩
      -- Only where the text ends could a reference go on in what follows it.
      cases t with
      | nil => exact absurd (congrArg List.head? hbrace) hjoin
      | cons d t => exact congrArg List.head? (show [d] = ['{'] from by rw [(List.cons.inj hbrace).1])

theorem divides_of_not_refers {t : Text} (h : ¬ Refers t) : Divides t (t.map .plain) := by
  have hwhole := Divides.append_of_not_refers h (by decide) .nothing
  rwa [List.append_nil, List.append_nil] at hwhole

/-! ### Expansion, piece by piece -/

/-- A run of characters up to the mark that ends it. -/
theorem cut_run {p : Char → Bool} {run : Text} (hrun : ∀ c ∈ run, p c = true) (mark : Char)
    (hmark : p mark = false) (rest : Text) :
    (run ++ mark :: rest).takeWhile p = run ∧ (run ++ mark :: rest).dropWhile p = mark :: rest := by
  rw [List.takeWhile_append_of_pos hrun, List.dropWhile_append_of_pos hrun, List.takeWhile_cons,
    List.dropWhile_cons, hmark]
  exact ⟨List.append_nil run, rfl⟩

/-- A reference is cut as it is written, whatever follows. -/
theorem cutReference?_of_refers {name : Text} {fallback : Option Text}
    (h : (Piece.reference name fallback).Refers) (rest : Text) :
    ∃ inner, (Piece.reference name fallback).text ++ rest = '$' :: '{' :: inner ∧
      cutReference? inner = some (name, fallback.getD [], rest) := by
  obtain ⟨hbrace, hcolon, hfallback⟩ := h
  have hrun : ∀ c ∈ name, (c != '}' && c != ':') = true := by
    intro c hc
    rw [Bool.and_eq_true, bne_iff_ne, bne_iff_ne]
    exact ⟨fun h => hbrace (h ▸ hc), fun h => hcolon (h ▸ hc)⟩
  cases fallback with
  | none =>
      refine ⟨name ++ '}' :: rest, by simp [Piece.text], ?_⟩
      obtain ⟨hname, hafter⟩ := cut_run hrun '}' rfl rest
      simp only [cutReference?, hname, hafter, Option.getD_none]
  | some fallback =>
      refine ⟨name ++ ':' :: '-' :: (fallback ++ '}' :: rest), by simp [Piece.text], ?_⟩
      obtain ⟨hname, hafter⟩ := cut_run hrun ':' rfl ('-' :: (fallback ++ '}' :: rest))
      have hinside : ∀ c ∈ fallback, (c != '}') = true := by
        intro c hc
        rw [bne_iff_ne]
        exact fun h => hfallback fallback rfl (h ▸ hc)
      obtain ⟨htext, hrest⟩ := cut_run hinside '}' rfl rest
      simp only [cutReference?, hname, hafter, htext, hrest, Option.getD_some]

/-- A text is a run of characters before the mark that ends it, and what is left of it. -/
theorem eq_run_append {p : Char → Bool} {t rest : Text} {mark : Char}
    (h : t.dropWhile p = mark :: rest) : t = t.takeWhile p ++ mark :: rest ∧ p mark = false := by
  refine ⟨by rw [← h, List.takeWhile_append_dropWhile], ?_⟩
  have hhead := List.head?_dropWhile_not p t
  rw [h] at hhead
  exact hhead

/-- Nothing is cut where no reference begins. -/
theorem exists_refers_of_cutReference? {t name fallback rest : Text}
    (h : cutReference? t = some (name, fallback, rest)) :
    ∃ p, Piece.Refers p ∧ '$' :: '{' :: t = p.text ++ rest := by
  have hname : ∀ d ∈ t.takeWhile (fun c => c != '}' && c != ':'), d ≠ '}' ∧ d ≠ ':' := by
    intro d hd
    have hpass := List.mem_takeWhile_imp hd
    rwa [Bool.and_eq_true, bne_iff_ne, bne_iff_ne] at hpass
  have hbrace := fun hmem => (hname '}' hmem).1 rfl
  have hcolon := fun hmem => (hname ':' hmem).2 rfl
  rw [cutReference?] at h
  split at h
  next rest' hdrop =>
    cases h
    refine ⟨.reference _ none, ⟨hbrace, hcolon, nofun⟩, ?_⟩
    have hwhole := (eq_run_append hdrop).1
    simp only [Piece.text, List.cons_append, List.append_assoc, List.nil_append, ← hwhole]
  next after hdrop =>
    split at h
    next mark rest' hafter =>
      cases h
      obtain ⟨hwhole, hmark⟩ := eq_run_append hafter
      have hend : mark = '}' := by simpa using hmark
      have hinside : '}' ∉ after.takeWhile (· != '}') := fun hmem =>
        absurd (List.mem_takeWhile_imp hmem) (by decide)
      refine ⟨.reference _ (some (after.takeWhile (· != '}'))), ⟨hbrace, hcolon, ?_⟩, ?_⟩
      · rintro _ ⟨⟩
        exact hinside
      · have hstart := (eq_run_append hdrop).1
        rw [hend] at hwhole
        simp only [Piece.text, List.cons_append, List.append_assoc, List.nil_append, ← hwhole, ← hstart]
    · cases h
  · cases h

theorem expandWithin_of_divides (find? : Text → Option Text) {t : Text} {pieces : List Piece}
    (h : Divides t pieces) {count : Nat} (hcount : t.length ≤ count) :
    expandWithin find? count t = pieces.flatMap (Piece.meaning find?) := by
  induction h generalizing count with
  | nothing => cases count <;> rfl
  | @character c rest pieces hnone hrest ih =>
      obtain ⟨count, rfl⟩ := Nat.exists_eq_add_of_le' (Nat.lt_of_lt_of_le (Nat.succ_pos _) hcount)
      have hlater := ih (Nat.le_of_succ_le_succ hcount)
      rw [List.flatMap_cons, ← hlater, expandWithin.eq_def]
      dsimp only
      split
      next after =>
        split
        next name fallback tail hcut =>
          obtain ⟨p, hp, htext⟩ := exists_refers_of_cutReference? hcut
          exact absurd htext (hnone p tail hp)
        · rfl
      · rfl
  | @reference p rest pieces hp hrest ih =>
      cases p with
      | plain c => exact hp.elim
      | reference name fallback =>
          -- A reference takes one of the count, and it is longer than that.
          obtain ⟨inner, htext, hcut⟩ := cutReference?_of_refers hp rest
          have hlonger : rest.length < ((Piece.reference name fallback).text ++ rest).length := by
            obtain ⟨inner, hinner⟩ := Piece.exists_text hp
            rw [hinner, List.length_append, List.length_cons]
            omega
          obtain ⟨count, rfl⟩ :=
            Nat.exists_eq_add_of_le' (Nat.lt_of_lt_of_le (Nat.zero_lt_of_lt hlonger) hcount)
          have hlater := @ih count (by omega)
          rw [htext, List.flatMap_cons, ← hlater]
          simp only [expandWithin, hcut, Piece.meaning]

/-- A text is expanded piece by piece. Which pieces it has does not depend on what names mean, and what
stands for a piece is put in as it is. -/
theorem expand_of_divides (find? : Text → Option Text) {t : Text} {pieces : List Piece}
    (h : Divides t pieces) : expand find? t = pieces.flatMap (Piece.meaning find?) :=
  expandWithin_of_divides find? h le_rfl

/-! ### One reference within a text -/

/-- Whether a name can be referred to: it holds neither of the marks that would end it. -/
def Referable (name : Text) : Prop :=
  '}' ∉ name ∧ ':' ∉ name

/-- A reference to a name, as it is written. -/
def reference (name : Text) : Text :=
  (Piece.reference name none).text

theorem divides_around {before after name : Text} (hbefore : ¬ Refers before) (hafter : ¬ Refers after)
    (hname : Referable name) :
    Divides (before ++ (reference name ++ after))
      (before.map .plain ++ .reference name none :: after.map .plain) := by
  have hpiece : (Piece.reference name none).Refers := ⟨hname.1, hname.2, nofun⟩
  exact .append_of_not_refers hbefore nofun (.reference hpiece (divides_of_not_refers hafter))

theorem flatMap_plain (find? : Text → Option Text) (t : Text) :
    (t.map Piece.plain).flatMap (Piece.meaning find?) = t := by
  rw [List.flatMap_map]
  exact List.flatMap_singleton' t

theorem expand_around (find? : Text → Option Text) {before after name : Text}
    (hbefore : ¬ Refers before) (hafter : ¬ Refers after) (hname : Referable name) :
    expand find? (before ++ (reference name ++ after)) = before ++ ((find? name).getD [] ++ after) := by
  rw [expand_of_divides find? (divides_around hbefore hafter hname), List.flatMap_append,
    List.flatMap_cons, flatMap_plain, flatMap_plain]
  rfl

theorem expand_reference (find? : Text → Option Text) {name : Text} (hname : Referable name) :
    expand find? (reference name) = (find? name).getD [] := by
  have hnone : ¬ Refers [] := by decide
  have halone := expand_around find? hnone hnone hname
  rwa [List.nil_append, List.append_nil, List.nil_append, List.append_nil] at halone

/-! ### Values of lines -/

variable {environment : List (Text × Text)} {known : List Assignment}

theorem expandAll_append (environment : List (Text × Text)) (known as bs : List Assignment) :
    expandAll environment known (as ++ bs) = expandAll environment (expandAll environment known as) bs := by
  induction as generalizing known with
  | nil => rfl
  | cons a as ih => exact ih _

/-- What is known stays as it is, and the others follow in their order. -/
theorem exists_expandAll (environment : List (Text × Text)) (known as : List Assignment) :
    ∃ rest, expandAll environment known as = known ++ rest ∧ rest.map (·.name) = as.map (·.name) := by
  induction as generalizing known with
  | nil => exact ⟨[], (List.append_nil known).symm, rfl⟩
  | cons a as ih =>
      let read : Assignment := ⟨a.name, a.value.map (expand (referent environment known))⟩
      obtain ⟨rest, hrest, hnames⟩ := ih (known ++ [read])
      refine ⟨read :: rest, ?_, congrArg (a.name :: ·) hnames⟩
      rw [expandAll, hrest, List.append_assoc]
      rfl

/-- The value of a line is expanded with what was read of the lines before it. -/
theorem read_value {t value : Text} {earlier later : List Assignment} {name : Text} {pieces : List Piece}
    (hwritten : written t = earlier ++ ⟨name, some value⟩ :: later) (hvalue : Divides value pieces)
    (environment : List (Text × Text)) :
    ∃ known rest, known.map (·.name) = earlier.map (·.name) ∧
      read environment t =
        known ++ ⟨name, some (pieces.flatMap (Piece.meaning (referent environment known)))⟩ :: rest := by
  obtain ⟨known, hknown, hnames⟩ := exists_expandAll environment [] earlier
  rw [List.nil_append] at hknown
  have hread : read environment t = expandAll environment [] (written t) := rfl
  rw [hread, hwritten, expandAll_append, hknown, expandAll, Option.map_some,
    expand_of_divides _ hvalue]
  obtain ⟨rest, hrest, -⟩ := exists_expandAll environment
    (known ++ [⟨name, some (pieces.flatMap (Piece.meaning (referent environment known)))⟩]) later
  refine ⟨known, rest, hnames, ?_⟩
  rw [hrest, List.append_assoc]
  rfl

theorem referent_of_not_mem {name : Text} (h : name ∉ known.map (·.name)) :
    referent environment known name = environment.lookup name := by
  have hlast : lastOf? name known = none := by
    rw [lastOf?, Option.map_eq_none_iff, List.find?_eq_none]
    exact fun a ha hname => h (List.mem_map.mpr ⟨a, List.mem_reverse.mp ha, beq_iff_eq.mp hname⟩)
  rw [referent, hlast]

theorem referent_concat (environment : List (Text × Text)) (known : List Assignment) (a : Assignment) :
    referent environment (known ++ [a]) a.name = some (a.value.getD []) := by
  have hlast : lastOf? a.name (known ++ [a]) = some a.value := by
    rw [lastOf?, List.reverse_concat, List.find?_cons, beq_self_eq_true]
    rfl
  rw [referent, hlast]

/-- A reference to a name that nothing gives a value to leaves nothing behind. -/
theorem read_of_unknown {t value : Text} {earlier later : List Assignment} {name unknown : Text}
    {before after : List Piece} (hwritten : written t = earlier ++ ⟨name, some value⟩ :: later)
    (hvalue : Divides value (before ++ .reference unknown none :: after))
    (hearlier : unknown ∉ earlier.map (·.name)) (hnone : environment.lookup unknown = none) :
    ∃ known rest, known.map (·.name) = earlier.map (·.name) ∧
      read environment t = known ++
        ⟨name, some ((before ++ after).flatMap (Piece.meaning (referent environment known)))⟩ :: rest := by
  obtain ⟨known, rest, hnames, hread⟩ := read_value hwritten hvalue environment
  have hmeaning : (Piece.reference unknown none).meaning (referent environment known) = [] := by
    have hreferent : referent environment known unknown = none := by
      rw [referent_of_not_mem (hnames ▸ hearlier), hnone]
    rw [Piece.meaning, hreferent]
    rfl
  rw [List.flatMap_append, List.flatMap_cons, hmeaning, List.nil_append, ← List.flatMap_append] at hread
  exact ⟨known, rest, hnames, hread⟩

/-! ### Lines with quoted texts -/

/-- Names with a text for each, as lines. -/
def quotedLines (given : List (Text × Text)) : List Text :=
  given.map fun (name, t) => name ++ '=' :: singleQuoted t

/-- What such lines assign. -/
def quotedAssignments (given : List (Text × Text)) : List Assignment :=
  given.map fun (name, t) => ⟨name, some t⟩

/-! ### Words -/

/-- Whether a character is a letter, a digit or an underscore. -/
def isWordChar (c : Char) : Bool :=
  c.isAlphanum || c == '_'

theorem toNat_of_isWordChar {c : Char} (h : isWordChar c = true) :
    '0'.toNat ≤ c.toNat ∧ c.toNat ≤ 'z'.toNat := by
  rcases (Bool.or_eq_true _ _).mp h with h | h
  · exact Text.toNat_of_isAlphanum h
  · rw [beq_iff_eq.mp h]
    decide

theorem isNameChar_of_isWordChar {c : Char} (h : isWordChar c = true) : isNameChar c = true := by
  have hequals : c ≠ '=' := by
    rintro rfl
    exact absurd h (by decide)
  have hhash : c ≠ '#' := by
    rintro rfl
    exact absurd h (by decide)
  have hblank : Text.isBlank c = false := by
    have hbounds : 48 ≤ c.toNat ∧ c.toNat ≤ 122 := toNat_of_isWordChar h
    simp [Text.isBlank, Text.isWhiteSpace]
    omega
  rw [isNameChar, bne_iff_ne.mpr hequals, bne_iff_ne.mpr hhash, hblank]
  rfl

section
variable {name : Text} (h : ∀ c ∈ name, isWordChar c = true)

include h in
theorem not_mem_of_isWordChar {c : Char} (hc : isWordChar c = false) : c ∉ name := fun hmem =>
  Bool.false_ne_true (hc.symm.trans (h c hmem))

include h in
theorem spells_of_isWordChar (hne : name ≠ []) : Spells name name := by
  refine .bare hne (fun c hc => isNameChar_of_isWordChar (h c hc)) fun hquote => ?_
  exact not_mem_of_isWordChar h (by decide) (List.mem_of_head? hquote)

include h in
theorem referable_of_isWordChar : Referable name :=
  ⟨not_mem_of_isWordChar h (by decide), not_mem_of_isWordChar h (by decide)⟩

end

/-- Lines for words are read as what they assign. -/
theorem written_quotedLines {given : List (Text × Text)}
    (h : ∀ a ∈ given, (∀ c ∈ a.1, isWordChar c = true) ∧ a.1 ≠ [] ∧ '\r' ∉ a.2) {t : Text}
    (ht : MadeOf (quotedLines given) t) : written t = quotedAssignments given := by
  have hlines : List.Forall₂ Assigns (quotedLines given) (quotedAssignments given) := by
    rw [quotedLines, quotedAssignments, List.forall₂_map_left_iff, List.forall₂_map_right_iff,
      List.forall₂_same]
    intro a ha
    obtain ⟨hword, hne, htext⟩ := h a ha
    exact (spells_of_isWordChar hword hne).assigns_singleQuoted htext
  refine written_of_madeOf ht hlines fun c hc hmark => ?_
  obtain ⟨line, hline, hfirst, -⟩ := ht.mem_head? hlines hc
  obtain ⟨a, ha, rfl⟩ := List.mem_map.mp hline
  obtain ⟨d, rest, hname⟩ := List.exists_cons_of_ne_nil (h a ha).2.1
  dsimp only at hfirst
  rw [hname] at hfirst
  cases hfirst
  have hbounds : c.toNat ≤ 122 :=
    (toNat_of_isWordChar ((h a ha).1 c (hname ▸ List.mem_cons_self))).2
  omega

/-! ### Chains of references -/

/-- A chain of names: each is given a reference to the one before it, the first to `start`. -/
def chain (start : Text) : List Text → List (Text × Text)
  | [] => []
  | name :: names => (name, reference start) :: chain name names

theorem exists_of_mem_chain {start : Text} {names : List Text} {a : Text × Text}
    (h : a ∈ chain start names) : a.1 ∈ names ∧ ∃ name ∈ start :: names, a.2 = reference name := by
  induction names generalizing start with
  | nil => cases h
  | cons name names ih =>
      rcases List.mem_cons.mp h with rfl | h
      · exact ⟨List.mem_cons_self, start, List.mem_cons_self, rfl⟩
      · obtain ⟨hmem, other, hother, htext⟩ := ih h
        exact ⟨List.mem_cons_of_mem _ hmem, other, List.mem_cons_of_mem _ hother, htext⟩

/-- What the name at the start of a chain means, all names of it are given. -/
theorem expandAll_chain {start v : Text} {names : List Text} (hstart : Referable start)
    (hnames : ∀ name ∈ names, Referable name) (hv : (referent environment known start).getD [] = v) :
    expandAll environment known (quotedAssignments (chain start names)) =
      known ++ names.map (⟨·, some v⟩) := by
  induction names generalizing known start with
  | nil => exact (List.append_nil known).symm
  | cons name names ih =>
      -- The name that has just been read is the start of what is left of the chain.
      have hfirst : expand (referent environment known) (reference start) = v := by
        rw [expand_reference _ hstart, hv]
      have hnext : (referent environment (known ++ [⟨name, some v⟩]) name).getD [] = v := by
        rw [referent_concat environment known ⟨name, some v⟩]
        rfl
      have hrest := ih (hnames name List.mem_cons_self)
        (fun other hother => hnames other (List.mem_cons_of_mem _ hother)) hnext
      have hstep : expandAll environment known (quotedAssignments (chain start (name :: names))) =
          expandAll environment
            (known ++ [⟨name, some (expand (referent environment known) (reference start))⟩])
            (quotedAssignments (chain name names)) := rfl
      rw [hstep, hfirst, hrest, List.append_assoc]
      rfl

/-- So the last name of a chain means what its start means. -/
theorem referent_getLastD {start v : Text} (names : List Text)
    (hv : (referent environment known start).getD [] = v) :
    (referent environment (known ++ names.map (⟨·, some v⟩)) (names.getLastD start)).getD [] = v := by
  induction names using List.reverseRecOn with
  | nil => rwa [List.map_nil, List.append_nil]
  | append_singleton names name =>
      have hlast : (names ++ [name]).getLastD start = name := by simp
      rw [hlast, List.map_append, ← List.append_assoc]
      rw [show [name].map (⟨·, some v⟩) = [(⟨name, some v⟩ : Assignment)] from rfl,
        referent_concat environment _ ⟨name, some v⟩]
      rfl

/-- What is read where a name is given the end of a chain between two texts. -/
theorem expandAll_chain_around {start before after name : Text} {names : List Text}
    (hstart : Referable start) (hnames : ∀ name ∈ names, Referable name) (hbefore : ¬ Refers before)
    (hafter : ¬ Refers after) :
    let v := (environment.lookup start).getD []
    expandAll environment [] (quotedAssignments
        (chain start names ++ [(name, before ++ (reference (names.getLastD start) ++ after))])) =
      names.map (⟨·, some v⟩) ++ [⟨name, some (before ++ (v ++ after))⟩] := by
  intro v
  have hv : (referent environment [] start).getD [] = v := by
    rw [referent_of_not_mem List.not_mem_nil]
  have hlast : Referable (names.getLastD start) := by
    cases names using List.reverseRecOn with
    | nil => exact hstart
    | append_singleton names name =>
        have hname : (names ++ [name]).getLastD start = name := by simp
        rw [hname]
        exact hnames name (List.mem_append_right _ List.mem_cons_self)
  have hchain := expandAll_chain hstart hnames hv
  have hend := referent_getLastD names hv
  rw [List.nil_append] at hchain hend
  rw [quotedAssignments, List.map_append, expandAll_append, ← quotedAssignments, hchain]
  show names.map _ ++ [_] = _
  rw [Option.map_some, expand_around _ hbefore hafter hlast, hend]

theorem not_mem_reference {c : Char} {name : Text} (hc : c ∉ ['$', '{', '}']) (h : c ∉ name) :
    c ∉ reference name := by
  simp only [List.mem_cons, List.not_mem_nil, or_false, not_or] at hc
  simp only [reference, Piece.text, List.mem_cons, List.mem_append, List.not_mem_nil, or_false, not_or]
  exact ⟨hc.1, hc.2.1, h, hc.2.2⟩

end DotEnv

/-! ### Names of fields, in any case -/

namespace Field

/-- Whether a name is the plain one of a field, its letters in any case. -/
def IsSpelled (name : Text) : Prop :=
  ∃ f : Field, name.asciiLower = f.name

theorem all_isWordChar_variableName (f : Field) : f.variableName.all DotEnv.isWordChar = true := by
  cases f <;> decide

variable {name : Text}

theorem IsSpelled.isWordChar (h : IsSpelled name) {c : Char} (hc : c ∈ name) :
    DotEnv.isWordChar c = true := by
  obtain ⟨f, hf⟩ := h
  by_cases hupper : c.isUpper = true
  · exact Text.forall_isUpper (P := (DotEnv.isWordChar · = true)) (by decide) c hupper
  · have hmem : c.toLower ∈ f.name := hf ▸ List.mem_map_of_mem hc
    rw [Char.toLower_eq_of_not_isUpper hupper] at hmem
    have hall : f.name.all DotEnv.isWordChar = true := by cases f <;> decide
    exact List.all_eq_true.mp hall c hmem

theorem IsSpelled.ne_nil (h : IsSpelled name) : name ≠ [] := by
  rintro rfl
  obtain ⟨f, hf⟩ := h
  cases f <;> cases hf

theorem IsSpelled.exists_lower (h : IsSpelled name) : ∃ f : Field, name.lower = f.name := by
  obtain ⟨f, hf⟩ := h
  exact ⟨f, by rw [← Text.lower_asciiLower, hf, lower_name]⟩

theorem name_ne_nameOf (f g : Field) : f.name ≠ Place.file.nameOf g := by
  have hall : ∀ f ∈ all, ∀ g ∈ all, f.name ≠ Place.file.nameOf g := by decide +kernel
  exact hall f f.mem_all g g.mem_all

end Field

/-! ### Settings from a chain -/

namespace Offers
variable {o : Offers} {names : List Text} {v value : Text}

/-- The file gives a text to some names, and in the end another one to the host. -/
def EndsWithHost (o : Offers) (names : List Text) (v value : Text) : Prop :=
  o.file = names.map (⟨·, some v⟩) ++ [⟨Field.host.variableName, some value⟩]

theorem EndsWithHost.entries_file (hfile : o.EndsWithHost names v value)
    (hnames : ∀ name ∈ names, Field.IsSpelled name) :
    ∃ entries : List (Text × Option Value),
      o.entries .file = entries ++ [(Field.host.variableName, some (.text value))] ∧
        ∀ entry ∈ entries, entry.1 ∈ names := by
  -- Names of the chain may be the same, so what they are given is collapsed; the host is not among them.
  let bare : List DotEnv.Assignment := names.map (⟨·, some v⟩)
  have hspelled : bare.map (·.name) = names := by
    rw [List.map_map]
    exact List.map_id names
  have hcollapsed : ∀ name ∈ (DotEnv.collapse bare).map (·.name), name ∈ names := by
    intro name hname
    rwa [DotEnv.names_collapse, hspelled, List.mem_eraseDups] at hname
  have hnew : Field.host.variableName ∉ (DotEnv.collapse bare).map (·.name) := by
    intro hmem
    obtain ⟨f, hf⟩ := (hnames _ (hcollapsed _ hmem)).exists_lower
    rw [Field.lower_variableName] at hf
    exact Field.name_ne_nameOf f .host hf.symm
  refine ⟨(DotEnv.collapse bare).map fun a => (a.name, a.value.map .text), ?_, ?_⟩
  · rw [Offers.entries_file, hfile, DotEnv.collapse_concat, DotEnv.assign_of_not_mem hnew, List.map_append]
    rfl
  · intro entry hentry
    obtain ⟨a, ha, rfl⟩ := List.mem_map.mp hentry
    exact hcollapsed _ (List.mem_map_of_mem ha)

theorem EndsWithHost.given? (hfile : o.EndsWithHost names v value)
    (hnames : ∀ name ∈ names, Field.IsSpelled name) (f : Field) :
    o.given? .file f = if f = .host then some (.text value) else none := by
  obtain ⟨entries, hentries, hmem⟩ := hfile.entries_file hnames
  have hnone : entries.reverse.find? (·.1.lower == Place.file.nameOf f) = none := by
    rw [List.find?_eq_none]
    intro entry hentry hname
    obtain ⟨g, hg⟩ := (hnames _ (hmem entry (List.mem_reverse.mp hentry))).exists_lower
    exact Field.name_ne_nameOf g f (hg.symm.trans (beq_iff_eq.mp hname))
  rw [Offers.given?, value?, hentries, List.reverse_concat, List.find?_cons, hnone, Field.lower_variableName]
  by_cases hf : f = .host
  · rw [if_pos hf, hf, beq_self_eq_true]
    rfl
  · have hother : (Place.file.nameOf .host == Place.file.nameOf f) = false :=
      beq_eq_false_iff_ne.mpr fun h => hf (Field.eq_of_nameOf h).symm
    rw [if_neg hf, hother]
    rfl

theorem EndsWithHost.unknownAssignments (hfile : o.EndsWithHost names v value)
    (hnames : ∀ name ∈ names, Field.IsSpelled name) : o.unknownAssignments = [] := by
  obtain ⟨entries, hentries, hmem⟩ := hfile.entries_file hnames
  rw [Offers.unknownAssignments, hentries, List.filterMap_eq_nil_iff]
  intro name hname
  rw [List.mem_eraseDups] at hname
  obtain ⟨entry, hentry, rfl⟩ := List.mem_map.mp hname
  apply if_pos
  rcases List.mem_append.mp hentry with hentry | hentry
  · obtain ⟨f, hf⟩ := (hnames _ (hmem entry hentry)).exists_lower
    exact List.any_eq_true.mpr ⟨f, f.mem_all, by rw [hf, beq_self_eq_true, Bool.true_or]⟩
  · rw [List.mem_singleton.mp hentry, Field.lower_variableName]
    exact isKnown_nameOf .host

/-- No place before the file gives the host a value. -/
structure LeavesHost (o : Offers) : Prop where
  arguments : ∀ a ∈ o.arguments, a.1.lower ≠ Field.host.name
  environment : ∀ a ∈ o.environment, a.1.lower ≠ Place.environment.nameOf .host

theorem LeavesHost.given? (h : o.LeavesHost) {p : Place} (hp : p ≠ .file) : o.given? p .host = none := by
  rw [Offers.given?, value?, Option.bind_eq_none_iff]
  intro entry hfind
  have hentry := List.mem_reverse.mp (List.mem_of_find?_eq_some hfind)
  have hname := beq_iff_eq.mp (List.find?_some hfind :)
  cases p with
  | arguments =>
      obtain ⟨a, ha, rfl⟩ := List.mem_map.mp hentry
      exact absurd hname (h.arguments a (List.mem_reverse.mp ha))
  | environment =>
      obtain ⟨a, ha, rfl⟩ := List.mem_map.mp hentry
      exact absurd hname (h.environment a ha)
  | file => exact absurd rfl hp

/-- What counts then is the text for the host, and for the other fields what counts without the file. -/
theorem EndsWithHost.chosen? (hfile : o.EndsWithHost names v value)
    (hnames : ∀ name ∈ names, Field.IsSpelled name) (h : o.LeavesHost) (f : Field) :
    o.chosen? f = if f = .host then some (.text value) else { o with file := [] }.chosen? f := by
  have hthird := hfile.given? hnames f
  have hnothing : { o with file := [] }.given? .file f = none := rfl
  simp only [Offers.chosen?, Place.all, List.findSome?_cons, List.findSome?_nil, hthird, hnothing]
  by_cases hf : f = .host
  · rw [if_pos hf, hf, h.given? Place.noConfusion, h.given? Place.noConfusion]
    rfl
  · rw [if_neg hf, if_neg hf]
    rfl

/-- So the settings are those without the file, but for the host. -/
theorem EndsWithHost.accepts (hfile : o.EndsWithHost names v value)
    (hnames : ∀ name ∈ names, Field.IsSpelled name) (h : o.LeavesHost) {standard settings : Settings}
    (hothers : ({ o with file := [] }.sources.settings standard).mapError SettingsError.invalid =
      .ok settings) :
    (o.sources.settings standard).mapError SettingsError.invalid = .ok { settings with host := value } := by
  have hchosen := hfile.chosen? hnames h
  have hnone := hfile.unknownAssignments hnames
  have hnothing : { o with file := [] }.unknownAssignments = [] := rfl
  have hdecides := decides_sources (o := o) (by rw [Apart, hnone]; nofun) standard
  have hdecides' := decides_sources (o := { o with file := [] }) (by rw [Apart, hnothing]; nofun) standard
  obtain ⟨hrejections, htaken⟩ := (hdecides'.accepts settings).mp hothers
  rw [rejections, List.append_eq_nil_iff, hnothing] at hrejections
  refine (hdecides.accepts _).mpr ⟨?_, fun f => ?_⟩
  · rw [rejections, List.append_eq_nil_iff, hnone]
    refine ⟨List.filterMap_eq_nil_iff.mpr fun f hf => ?_, hrejections.2⟩
    rw [fault?, hchosen]
    by_cases hhost : f = .host
    · rw [if_pos hhost, hhost]
      rfl
    · rw [if_neg hhost]
      exact List.filterMap_eq_nil_iff.mp hrejections.1 f hf
  · rw [taken, hchosen]
    by_cases hhost : f = .host
    · rw [if_pos hhost, hhost]
      rfl
    · have hvalue : Settings.value { settings with host := value } f = settings.value f := by
        cases f
        · exact absurd rfl hhost
        all_goals rfl
      rw [if_neg hhost, hvalue]
      exact htaken f

end Offers

namespace Settings
variable {s s' : Surroundings} {start before after t : Text} {names : List Text}
  {arguments : List (Text × Value)} {standard settings : Settings}

/-- A file that gives the host the end of a chain between two texts, and nothing else to a field. -/
def chainFile (start : Text) (names : List Text) (before after : Text) : List (Text × Text) :=
  DotEnv.chain start names ++
    [(Field.host.variableName, before ++ (DotEnv.reference (names.getLastD start) ++ after))]

theorem read_chainFile (hstart : DotEnv.Referable start ∧ '\r' ∉ start)
    (hnames : ∀ name ∈ names, Field.IsSpelled name) (hbefore : ¬ DotEnv.Refers before ∧ '\r' ∉ before)
    (hafter : ¬ DotEnv.Refers after ∧ '\r' ∉ after)
    (ht : DotEnv.MadeOf (DotEnv.quotedLines (chainFile start names before after)) t)
    (environment : List (Text × Text)) :
    DotEnv.read environment t = names.map (⟨·, some ((environment.lookup start).getD [])⟩) ++
      [⟨Field.host.variableName, some (before ++ ((environment.lookup start).getD [] ++ after))⟩] := by
  have hwords : ∀ name ∈ names, ∀ c ∈ name, DotEnv.isWordChar c = true := fun name hname c hc =>
    (hnames name hname).isWordChar hc
  have hsingle : ∀ name ∈ start :: names, '\r' ∉ name := by
    intro name hname
    rcases List.mem_cons.mp hname with rfl | hname
    · exact hstart.2
    · exact DotEnv.not_mem_of_isWordChar (hwords name hname) (by decide)
  have hlast : names.getLastD start ∈ start :: names := by
    cases names using List.reverseRecOn <;> simp
  have hwritten : DotEnv.written t = DotEnv.quotedAssignments (chainFile start names before after) := by
    refine DotEnv.written_quotedLines (fun a ha => ?_) ht
    rcases List.mem_append.mp ha with ha | ha
    · obtain ⟨hname, name, hmem, htext⟩ := DotEnv.exists_of_mem_chain ha
      exact ⟨hwords _ hname, (hnames _ hname).ne_nil,
        htext ▸ DotEnv.not_mem_reference (by decide) (hsingle name hmem)⟩
    · rw [List.mem_singleton.mp ha]
      refine ⟨List.all_eq_true.mp (Field.all_isWordChar_variableName .host), nofun, ?_⟩
      simp only [List.mem_append, not_or]
      exact ⟨hbefore.2, DotEnv.not_mem_reference (by decide) (hsingle _ hlast), hafter.2⟩
  have hread : DotEnv.read environment t = DotEnv.expandAll environment [] (DotEnv.written t) := rfl
  rw [hread, hwritten]
  exact DotEnv.expandAll_chain_around hstart.1
    (fun name hname => DotEnv.referable_of_isWordChar (hwords name hname)) hbefore.1 hafter.1

/-- What a file hands on through a chain of references arrives as it is: where the environment gives the
start of the chain a text, the host has that text within, whatever it looks like, and where it gives it
none, nothing; all other settings are those without the file. And in no file does a reference to a name
leave anything behind, if neither the environment nor a line before gives that name a value. -/
theorem load_chained (hstart : DotEnv.Referable start ∧ '\r' ∉ start)
    (hnames : ∀ name ∈ names, Field.IsSpelled name) (hbefore : ¬ DotEnv.Refers before ∧ '\r' ∉ before)
    (hafter : ¬ DotEnv.Refers after ∧ '\r' ∉ after)
    (ht : DotEnv.MadeOf (DotEnv.quotedLines (chainFile start names before after)) t)
    (hfile : s.Holds t) (hnofile : s'.Holds []) (henvironment : s'.environment = s.environment)
    (hplain : SourceOptions.Plain arguments) (hhost : (s.offers t arguments).LeavesHost)
    (hothers : load s' standard arguments = .ok settings) :
    (∀ v, s.environment.lookup start = some v →
      load s standard arguments = .ok { settings with host := before ++ (v ++ after) }) ∧
    (s.environment.lookup start = none →
      load s standard arguments = .ok { settings with host := before ++ after }) ∧
    (∀ (environment : List (Text × Text)) (t value name unknown : Text)
        (earlier later : List DotEnv.Assignment) (before after : List DotEnv.Piece),
      DotEnv.written t = earlier ++ ⟨name, some value⟩ :: later →
      DotEnv.Divides value (before ++ .reference unknown none :: after) →
      unknown ∉ earlier.map (·.name) → environment.lookup unknown = none →
      ∃ known rest, known.map (·.name) = earlier.map (·.name) ∧
        DotEnv.read environment t = known ++ ⟨name, some ((before ++ after).flatMap
          (DotEnv.Piece.meaning (DotEnv.referent environment known)))⟩ :: rest) := by
  have hread := read_chainFile hstart hnames hbefore hafter ht s.environment
  have hload : load s standard arguments = .ok { settings with
      host := before ++ ((s.environment.lookup start).getD [] ++ after) } := by
    rw [load_of_plain hnofile hplain, henvironment] at hothers
    rw [load_of_plain hfile hplain]
    have hends : (Offers.mk arguments s.environment (DotEnv.read s.environment t)).EndsWithHost names
        ((s.environment.lookup start).getD []) (before ++ ((s.environment.lookup start).getD [] ++ after)) :=
      hread
    exact hends.accepts hnames ⟨hhost.arguments, hhost.environment⟩ hothers
  refine ⟨fun v hv => ?_, fun hv => ?_, fun environment t value name unknown earlier later before after =>
    DotEnv.read_of_unknown⟩
  · rwa [hv] at hload
  · rwa [hv] at hload

end Settings

/-! ### A text that looks like references -/

namespace ReferencesWithin

/-- A text with a reference to itself, to a name of the chain, quotes, a comment and a newline. -/
def value : Text :=
  "$\x7bX_1\x7d'$\x7bHOST\x7d\" #\\\n$\x7bPort:-\x7d".toList

def environment : List (Text × Text) :=
  [("PATH".toList, "/bin".toList), ("X_1".toList, value)]

def names : List Text :=
  ["HOST".toList, "Port".toList]

def first : Text :=
  "HOST='$\x7bX_1\x7d'".toList

def second : Text :=
  "Port='$\x7bHOST\x7d'".toList

def third : Text :=
  "STATIC_SERVER_HOST='<$$\x7bPort\x7d\x7d>'".toList

def text : Text :=
  first ++ ['\r', '\n'] ++ (second ++ ['\n'] ++ third)

def surroundings (entries : List (Location × Entry)) : Surroundings :=
  { vantage := ⟨⟨entries⟩, .superuser, []⟩
    environment
    homes := ⟨[], []⟩ }

def file : Entry :=
  ⟨.file (Utf8.encode text) 0, 0o644⟩

def settings : Settings :=
  Settings.standard "pub".toList

/-- A line that refers to its own name, and to another one that is not known, with a fallback. -/
def level : Text :=
  "STATIC_SERVER_LOG_LEVEL=\"w$\x7bSTATIC_SERVER_LOG_LEVEL\x7d$\x7bU:-arn\x7d\"".toList

theorem load_chained_itself :
    Settings.load (surroundings [([".env".toList], file)]) settings [] =
        .ok { settings with host := "<$".toList ++ (value ++ "\x7d>".toList) } ∧
      (DotEnv.read [] level).head? = some ⟨"STATIC_SERVER_LOG_LEVEL".toList, some "warn".toList⟩ := by
  have hstart : DotEnv.Referable "X_1".toList ∧ '\r' ∉ "X_1".toList := by
    unfold DotEnv.Referable
    decide
  have hnames : ∀ name ∈ names, Field.IsSpelled name := by
    intro name hname
    simp only [names, List.mem_cons, List.not_mem_nil, or_false] at hname
    rcases hname with rfl | rfl
    · exact ⟨.host, by decide⟩
    · exact ⟨.port, by decide⟩
  have hmade : DotEnv.MadeOf
      (DotEnv.quotedLines (Settings.chainFile "X_1".toList names "<$".toList "\x7d>".toList)) text := by
    have hlines : DotEnv.quotedLines (Settings.chainFile "X_1".toList names "<$".toList "\x7d>".toList) =
        [first, second, third] := by
      decide +kernel
    rw [hlines]
    exact .ended (by decide) (.ended (by decide) (.unended _))
  have hfile : (surroundings [([".env".toList], file)]).Holds text := by
    have hdecode : Charset.utf8.decode (Utf8.encode text) = .ok text := rfl
    exact .text (e := file) rfl rfl rfl hdecode
  have hnofile : (surroundings []).Holds [] := .nothing rfl rfl
  have hothers : Settings.load (surroundings []) settings [] = .ok settings :=
    ok_of_toOption (by decide +kernel)
  have hvariables : ∀ a ∈ environment, a.1.lower ≠ Place.environment.nameOf .host := by decide +kernel
  obtain ⟨hgiven, -, hunknown⟩ := Settings.load_chained hstart hnames (by decide) (by decide)
    hmade hfile hnofile rfl (List.forall_mem_nil _) ⟨List.forall_mem_nil _, hvariables⟩ hothers
  refine ⟨hgiven value (by decide +kernel), ?_⟩
  have hfirst : (DotEnv.Piece.reference "STATIC_SERVER_LOG_LEVEL".toList none).Refers :=
    ⟨by decide, by decide, nofun⟩
  have hsecond : (DotEnv.Piece.reference "U".toList (some "arn".toList)).Refers := by
    refine ⟨by decide, by decide, ?_⟩
    rintro _ ⟨⟩
    decide
  have hpieces : DotEnv.Divides "w$\x7bSTATIC_SERVER_LOG_LEVEL\x7d$\x7bU:-arn\x7d".toList
      (['w'].map .plain ++ .reference "STATIC_SERVER_LOG_LEVEL".toList none ::
        [.reference "U".toList (some "arn".toList)]) :=
    .append_of_not_refers (t := ['w']) (by decide) (by decide)
      (.reference hfirst (.reference hsecond .nothing))
  obtain ⟨known, rest, hknown, hread⟩ := hunknown [] level _ "STATIC_SERVER_LOG_LEVEL".toList _ [] [] _ _
    (by decide +kernel) hpieces List.not_mem_nil rfl
  rw [List.map_eq_nil_iff.mp hknown, List.nil_append] at hread
  rw [hread]
  rfl

end ReferencesWithin

end StaticSite
