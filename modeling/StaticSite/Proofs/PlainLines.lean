import StaticSite.Proofs.Lines

/-! Lines with bare values. What a name is given by a line without quotes in its value depends on the
text after the equals sign alone, comments and blanks in it included. -/

namespace StaticSite.DotEnv

/-- The value that a text without quotes has after an equals sign. Nothing is left of one that is a
comment behind blanks. -/
def plainValue (value : Text) : Text :=
  let start := value.dropWhile isLineBlank
  if start.head? = some '#' ∧ start.length < value.length then [] else bareValue start

/-- Characters that end a value or begin a quoted one. -/
def valueMarks : List Char :=
  ['\'', '"', '\n', '\r']

/-- A line of a key, an equals sign and a value without quotes or references. -/
structure Line where
  key : Text
  name : Text
  value : Text
  spells : Spells key name
  unmarked : ∀ c ∈ value, c ∉ valueMarks
  plain : ¬ Refers value

namespace Line

/-- A line as it is written. -/
def text (l : Line) : Text :=
  l.key ++ '=' :: l.value

/-- What a line assigns. -/
def assignment (l : Line) : Assignment :=
  ⟨l.name, some (plainValue l.value)⟩

end Line

/-! ### The value of a line -/

variable {value rest : Text}

theorem dropWhile_of_followsLine (h : FollowsLine rest) : rest.dropWhile isLineBlank = rest := by
  cases rest with
  | nil => rfl
  | cons c rest =>
      cases h c rfl
      rfl

theorem cutLine_append (hvalue : '\n' ∉ value) (hrest : FollowsLine rest) :
    cutLine (value ++ rest) = (value, rest) := by
  have hall : ∀ c ∈ value, (c != '\n') = true := by
    intro c hc
    rw [bne_iff_ne]
    rintro rfl
    exact hvalue hc
  have hnone : rest.takeWhile (· != '\n') = [] ∧ rest.dropWhile (· != '\n') = rest := by
    cases rest with
    | nil => exact ⟨rfl, rfl⟩
    | cons c rest =>
        cases hrest c rfl
        exact ⟨rfl, rfl⟩
  rw [cutLine, List.takeWhile_append_of_pos hall, List.dropWhile_append_of_pos hall, hnone.1, hnone.2,
    List.append_nil]

theorem readLineEnd_comment (hvalue : '\n' ∉ value) (hcomment : value.head? = some '#')
    (hrest : FollowsLine rest) : readLineEnd (value ++ rest) = .ok (rest.drop 1) := by
  have hcut : (cutLine (value ++ rest)).2 = rest := congrArg Prod.snd (cutLine_append hvalue hrest)
  cases value with
  | nil => cases hcomment
  | cons c value =>
      cases hcomment
      have hstart : ('#' :: (value ++ rest)).dropWhile isLineBlank = '#' :: (value ++ rest) := rfl
      rw [List.cons_append] at hcut ⊢
      simp only [readLineEnd, hstart, hcut]
      cases rest with
      | nil => rfl
      | cons d rest =>
          cases hrest d rfl
          rfl

/-- Up to its end a line without quotes holds the value and what is passed over. -/
theorem readValue_plain (hvalue : ∀ c ∈ value, c ∉ valueMarks) (hrest : FollowsLine rest) :
    ∃ left, readValue (value ++ rest) = .ok (plainValue value, left) ∧
      readLineEnd left = .ok (rest.drop 1) := by
  have hstart : (value ++ rest).dropWhile isLineBlank = value.dropWhile isLineBlank ++ rest := by
    rw [List.dropWhile_append, dropWhile_of_followsLine hrest]
    split
    next hempty => rw [List.isEmpty_iff.mp hempty, List.nil_append]
    · rfl
  have hunmarked : ∀ c ∈ value.dropWhile isLineBlank, c ∉ valueMarks := fun c hc =>
    hvalue c ((List.dropWhile_suffix _).subset hc)
  have hnewline : '\n' ∉ value.dropWhile isLineBlank := fun hmem =>
    hunmarked '\n' hmem (by decide)
  have hcut := cutLine_append hnewline hrest
  have hlonger : (value.dropWhile isLineBlank ++ rest).length < (value ++ rest).length ↔
      (value.dropWhile isLineBlank).length < value.length := by
    rw [List.length_append, List.length_append, Nat.add_lt_add_iff_right]
  rw [plainValue, readValue, hstart]
  simp only [hlonger, hcut]
  cases hcore : value.dropWhile isLineBlank with
  | nil =>
      refine ⟨rest, ?_, readLineEnd_of_followsLine hrest⟩
      cases rest with
      | nil => rfl
      | cons d rest =>
          cases hrest d rfl
          rfl
  | cons c core =>
      have hc := hunmarked c (hcore ▸ List.mem_cons_self)
      have hsingle : c ≠ '\'' := fun h => hc (h ▸ by decide)
      have hdouble : c ≠ '"' := fun h => hc (h ▸ by decide)
      rw [hcore] at hnewline
      simp only [List.cons_append, if_neg hsingle, if_neg hdouble, List.head?_cons,
        Option.some.injEq]
      by_cases hcomment : c = '#' ∧ (c :: core).length < value.length
      · rw [if_pos hcomment, if_pos hcomment]
        exact ⟨_, rfl, readLineEnd_comment hnewline (congrArg some hcomment.1) hrest⟩
      · rw [if_neg hcomment, if_neg hcomment]
        exact ⟨rest, rfl, readLineEnd_of_followsLine hrest⟩

namespace Line

theorem assigns (l : Line) : Assigns l.text l.assignment := by
  apply l.spells.assigns
  · exact fun hmem => l.unmarked '\r' hmem (by decide)
  · exact fun rest hrest => readValue_plain l.unmarked hrest

/-- No reference comes out of a value without one. -/
theorem not_refers (l : Line) : ¬ Refers (plainValue l.value) := by
  intro hrefers
  rw [plainValue] at hrefers
  split at hrefers
  · exact l.plain (hrefers.of_isInfix List.nil_prefix.isInfix)
  · apply l.plain
    exact hrefers.of_isInfix
      ((bareValue_isPrefix _).isInfix.trans (List.dropWhile_suffix _).isInfix)

end Line

/-- A text of such lines, with no mark before them, is read as what they assign. -/
theorem read_of_plainLines {lines : List Line} {t : Text} (ht : MadeOf (lines.map Line.text) t)
    (hmark : ∀ c ∈ t.head?, c.toNat ≠ 0xfeff) (environment : List (Text × Text)) :
    read environment t = lines.map Line.assignment := by
  have hlines : List.Forall₂ Assigns (lines.map Line.text) (lines.map Line.assignment) := by
    rw [List.forall₂_map_left_iff, List.forall₂_map_right_iff, List.forall₂_same]
    exact fun l _ => l.assigns
  refine read_of_madeOf ht hlines hmark ?_ environment
  intro a ha v hv
  obtain ⟨l, -, rfl⟩ := List.mem_map.mp ha
  cases hv
  exact l.not_refers

end StaticSite.DotEnv
