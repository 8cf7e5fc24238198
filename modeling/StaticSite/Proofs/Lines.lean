import Mathlib.Data.List.Forall2
import StaticSite.Proofs.References

/-! Files of assignments, line by line. Where each line is an assignment by itself, whatever follows its
end, a file that is made of such lines is read as their assignments, in order; how the lines end and
whether the last one does makes no difference. -/

namespace StaticSite.DotEnv

/-! ### Lines and their ends -/

/-- How a line may end. -/
def lineEndings : List Text :=
  [['\n'], ['\r', '\n'], ['\r']]

/-- A text that is made of lines, in order. The last of them may lack its end. -/
inductive MadeOf : List Text → Text → Prop
  | nothing : MadeOf [] []
  | unended (line : Text) : MadeOf [line] line
  | ended {line ending t : Text} {rest : List Text} (hending : ending ∈ lineEndings)
      (hrest : MadeOf rest t) : MadeOf (line :: rest) (line ++ ending ++ t)

/-- What follows a line: nothing, or its end. -/
def FollowsLine (rest : Text) : Prop :=
  ∀ c ∈ rest.head?, c = '\n'

/-- A line that is an assignment, whatever follows its end. -/
structure Assigns (line : Text) (a : Assignment) : Prop where
  start : ∃ c rest, line = c :: rest ∧ Text.isBlank c = false
  single : '\r' ∉ line
  read : ∀ rest, FollowsLine rest → readAssignment (line ++ rest) = .ok (some a, rest.drop 1)

variable {line t : Text} {lines : List Text} {a : Assignment} {as : List Assignment}

theorem followsLine_nil : FollowsLine [] :=
  nofun

theorem followsLine_newline (rest : Text) : FollowsLine ('\n' :: rest) := by
  rintro c ⟨⟩
  rfl

theorem readLineEnd_of_followsLine {rest : Text} (h : FollowsLine rest) :
    readLineEnd rest = .ok (rest.drop 1) := by
  cases rest with
  | nil => rfl
  | cons c rest =>
      cases h c rfl
      rfl

theorem unifyNewlines_cons {c : Char} (h : c ≠ '\r') (t : Text) :
    unifyNewlines (c :: t) = c :: unifyNewlines t := by
  rw [unifyNewlines, if_neg h]
  exact fun _ hc _ => h hc

theorem unifyNewlines_append (h : '\r' ∉ line) (t : Text) :
    unifyNewlines (line ++ t) = line ++ unifyNewlines t := by
  induction line with
  | nil => rfl
  | cons c line ih =>
      obtain ⟨hc, hline⟩ := List.ne_and_not_mem_of_not_mem_cons h
      rw [List.cons_append, unifyNewlines_cons hc.symm, ih hline, List.cons_append]

/-- Each end becomes a newline, unless what follows would be taken for a part of it. -/
theorem unifyNewlines_ending {ending : Text} (hending : ending ∈ lineEndings)
    (ht : t.head? ≠ some '\n') : unifyNewlines (ending ++ t) = '\n' :: unifyNewlines t := by
  simp only [lineEndings, List.mem_cons, List.not_mem_nil, or_false] at hending
  rcases hending with rfl | rfl | rfl
  · exact unifyNewlines_cons (by decide) t
  · rw [List.cons_append, List.singleton_append, unifyNewlines]
  · rw [List.singleton_append, unifyNewlines, if_pos rfl]
    intro rest _ hrest
    exact ht (by rw [hrest, List.head?_cons])

namespace MadeOf

theorem newline (line : Text) (h : MadeOf lines t) : MadeOf (line :: lines) (line ++ '\n' :: t) := by
  have hended : MadeOf (line :: lines) (line ++ ['\n'] ++ t) := .ended (by decide) h
  rwa [List.append_assoc] at hended

/-- A text of assignments begins as one of its lines does, and with no blank. -/
theorem mem_head? (h : MadeOf lines t) (hlines : List.Forall₂ Assigns lines as) {c : Char}
    (hc : c ∈ t.head?) : ∃ line ∈ lines, c ∈ line.head? ∧ Text.isBlank c = false := by
  have hfirst : ∀ {line a} (rest : Text), Assigns line a → c ∈ (line ++ rest).head? →
      c ∈ line.head? ∧ Text.isBlank c = false := by
    intro line a rest hline hmem
    obtain ⟨d, after, rfl, hd⟩ := hline.start
    cases hmem
    exact ⟨rfl, hd⟩
  cases h with
  | nothing => cases hc
  | unended line =>
      cases hlines with
      | cons hline _ =>
          rw [← List.append_nil t] at hc
          exact ⟨t, List.mem_cons_self, hfirst [] hline hc⟩
  | @ended line ending rest lines hending hrest =>
      cases hlines with
      | cons hline _ =>
          rw [List.append_assoc] at hc
          exact ⟨line, List.mem_cons_self, hfirst _ hline hc⟩

theorem head?_ne (h : MadeOf lines t) (hlines : List.Forall₂ Assigns lines as) :
    t.head? ≠ some '\n' := by
  intro hnewline
  obtain ⟨line, -, -, hblank⟩ := h.mem_head? hlines hnewline
  exact absurd hblank (by decide)

/-- Each line takes up a character at least. -/
theorem length_le (h : MadeOf lines t) (hlines : List.Forall₂ Assigns lines as) :
    as.length ≤ (unifyNewlines t).length := by
  induction h generalizing as with
  | nothing =>
      cases hlines
      exact Nat.zero_le _
  | unended line =>
      obtain ⟨a, as', hline, hnil, rfl⟩ := List.forall₂_cons_left_iff.mp hlines
      cases hnil
      obtain ⟨c, after, rfl, hc⟩ := hline.start
      have hreturn : c ≠ '\r' := fun h => hline.single (h ▸ List.mem_cons_self)
      rw [unifyNewlines_cons hreturn, List.length_cons, List.length_cons]
      exact Nat.succ_le_succ (Nat.zero_le _)
  | @ended line ending t rest hending hrest ih =>
      obtain ⟨a, as', hline, hlines', rfl⟩ := List.forall₂_cons_left_iff.mp hlines
      have hshort := ih hlines'
      rw [List.append_assoc, unifyNewlines_append hline.single,
        unifyNewlines_ending hending (hrest.head?_ne hlines'), List.length_append, List.length_cons,
        List.length_cons]
      omega

end MadeOf

/-! ### Reading line by line -/

theorem readAll_nil (count : Nat) : readAll count [] = [] := by
  cases count <;> rfl

theorem readAll_line (hline : Assigns line a) (count : Nat) {rest : Text} (hrest : FollowsLine rest) :
    readAll (count + 1) (line ++ rest) = a :: readAll count (rest.drop 1) := by
  have hread := hline.read rest hrest
  obtain ⟨c, after, rfl, hc⟩ := hline.start
  have hstart : (c :: after ++ rest).dropWhile Text.isBlank = c :: after ++ rest := by
    rw [List.cons_append, List.dropWhile_cons, hc, if_neg Bool.false_ne_true]
  rw [readAll, hstart, List.cons_append]
  rw [List.cons_append] at hread
  simp only [hread]
  rfl

theorem readAll_of_madeOf (h : MadeOf lines t) (hlines : List.Forall₂ Assigns lines as) {count : Nat}
    (hcount : as.length ≤ count) : readAll count (unifyNewlines t) = as := by
  induction h generalizing as count with
  | nothing =>
      cases hlines
      exact readAll_nil count
  | unended line =>
      obtain ⟨a, as', hline, hnil, rfl⟩ := List.forall₂_cons_left_iff.mp hlines
      cases hnil
      obtain ⟨count, rfl⟩ := Nat.exists_eq_add_of_le' hcount
      have hwhole : unifyNewlines line = line ++ [] := by
        rw [← List.append_nil line, unifyNewlines_append hline.single, List.append_nil]
        rfl
      rw [hwhole, List.length_singleton, readAll_line hline count followsLine_nil, List.drop_nil,
        readAll_nil]
  | @ended line ending t rest hending hrest ih =>
      obtain ⟨a, as', hline, hlines', rfl⟩ := List.forall₂_cons_left_iff.mp hlines
      obtain ⟨count, rfl⟩ := Nat.exists_eq_add_of_le' (Nat.lt_of_lt_of_le (Nat.succ_pos _) hcount)
      have hrestcount : as'.length ≤ count := Nat.le_of_succ_le_succ hcount
      rw [List.append_assoc, unifyNewlines_append hline.single,
        unifyNewlines_ending hending (hrest.head?_ne hlines'),
        readAll_line hline count (followsLine_newline _), List.drop_one, List.tail_cons,
        ih hlines' hrestcount]

/-- A text that is made of assignments, and does not begin with the mark that files may begin with, is
read as they are written. -/
theorem written_of_madeOf (h : MadeOf lines t) (hlines : List.Forall₂ Assigns lines as)
    (hmark : ∀ c ∈ t.head?, c.toNat ≠ 0xfeff) : written t = as := by
  have hunmarked : dropByteOrderMark t = t := by
    unfold dropByteOrderMark
    split
    next c rest => rw [if_neg (hmark c rfl)]
    · rfl
  rw [written, hunmarked, assignments]
  exact readAll_of_madeOf h hlines (h.length_le hlines)

/-- If no value of theirs refers to others, so it is in every environment. -/
theorem read_of_madeOf (h : MadeOf lines t) (hlines : List.Forall₂ Assigns lines as)
    (hmark : ∀ c ∈ t.head?, c.toNat ≠ 0xfeff) (hrefers : ∀ a ∈ as, ∀ v ∈ a.value, ¬ Refers v)
    (environment : List (Text × Text)) : read environment t = as := by
  have hwritten : read environment t = expandAll environment [] (written t) := rfl
  rw [hwritten, written_of_madeOf h hlines hmark, expandAll_of_not_refers environment [] as hrefers,
    List.nil_append]

/-! ### Names before an equals sign -/

theorem isBlank_of_isNameChar {c : Char} (h : isNameChar c = true) : Text.isBlank c = false := by
  rw [isNameChar, Bool.and_eq_true, Bool.not_eq_true'] at h
  exact h.2

/-- A key is the name that it spells, bare or between single quotes. -/
inductive Spells : Text → Text → Prop
  | bare {name : Text} (hne : name ≠ []) (hchars : ∀ c ∈ name, isNameChar c = true)
      (hquote : name.head? ≠ some '\'') : Spells name name
  | quoted {name : Text} (hne : name ≠ []) (hquote : '\'' ∉ name) (hreturn : '\r' ∉ name) :
      Spells ('\'' :: (name ++ ['\''])) name

namespace Spells
variable {key name : Text}

theorem start (h : Spells key name) : ∃ c rest, key = c :: rest ∧ Text.isBlank c = false := by
  cases h with
  | bare hne hchars hquote =>
      obtain ⟨c, rest, rfl⟩ := List.exists_cons_of_ne_nil hne
      exact ⟨c, rest, rfl, isBlank_of_isNameChar (hchars c List.mem_cons_self)⟩
  | quoted hne hquote hreturn => exact ⟨_, _, rfl, by decide⟩

theorem single (h : Spells key name) : '\r' ∉ key := by
  cases h with
  | bare hne hchars hquote => exact fun hmem => absurd (hchars _ hmem) (by decide)
  | quoted hne hquote hreturn =>
      intro hmem
      simp only [List.mem_cons, List.mem_append, List.not_mem_nil, or_false] at hmem
      rcases hmem with hmem | hmem | hmem
      · exact absurd hmem (by decide)
      · exact hreturn hmem
      · exact absurd hmem (by decide)

/-- Only a blank makes a word of the front of a key. -/
theorem dropExport_append (h : Spells key name) (rest : Text) :
    dropExport (key ++ '=' :: rest) = key ++ '=' :: rest := by
  unfold dropExport
  split
  next after hafter =>
    have heq := List.append_eq_of_isPrefixOf?_eq_some hafter
    cases after with
    | nil => rfl
    | cons c after =>
        have hblank : isLineBlank c = false := by
          cases h with
          | bare hne hchars hquote =>
              rcases List.append_eq_append_iff.mp heq with ⟨more, hkey, hafter⟩ | ⟨more, hword, hafter⟩
              · cases more with
                | nil =>
                    cases hafter
                    decide
                | cons d more =>
                    cases hafter
                    have hc : isNameChar c = true := hchars c (by rw [hkey]; simp)
                    rw [isLineBlank, isBlank_of_isNameChar hc, Bool.false_and]
              · cases more with
                | nil =>
                    cases hafter
                    decide
                | cons d more =>
                    cases hafter
                    have hmem : '=' ∈ "export".toList := by rw [hword]; simp
                    exact absurd hmem (by decide)
          | quoted hne hquote hreturn => cases heq
        dsimp only
        rw [hblank, if_neg Bool.false_ne_true]
  · rfl

theorem readName_append (h : Spells key name) (rest : Text) :
    readName (key ++ '=' :: rest) = .ok (some name, '=' :: rest) := by
  cases h with
  | bare hne hchars hquote =>
      have hname : (key ++ '=' :: rest).takeWhile isNameChar = key ∧
          (key ++ '=' :: rest).dropWhile isNameChar = '=' :: rest := by
        rw [List.takeWhile_append_of_pos hchars, List.dropWhile_append_of_pos hchars]
        exact ⟨List.append_nil key, rfl⟩
      obtain ⟨c, after, rfl⟩ := List.exists_cons_of_ne_nil hne
      have hhash : c ≠ '#' := by
        rintro rfl
        exact absurd (hchars _ List.mem_cons_self) (by decide)
      have hmark : c ≠ '\'' := fun hc => hquote (congrArg some hc)
      rw [List.cons_append] at hname ⊢
      simp only [readName, if_neg hhash, if_neg hmark, hname, if_neg hne]
  | quoted hne hquote hreturn =>
      have hcut : Text.cutFirst? '\'' (name ++ ['\''] ++ '=' :: rest) = some (name, '=' :: rest) := by
        rw [List.append_assoc]
        exact Text.cutFirst?_append_cons hquote _
      rw [List.cons_append]
      simp only [readName, if_neg (show ¬ '\'' = '#' by decide), if_true, hcut, if_neg hne]

/-- A key before a value is read as an assignment of what the value is read as, if that goes up to the
end of the line. -/
theorem assigns {value v : Text} (h : Spells key name) (hsingle : '\r' ∉ value)
    (hvalue : ∀ rest, FollowsLine rest → ∃ left, readValue (value ++ rest) = .ok (v, left) ∧
      readLineEnd left = .ok (rest.drop 1)) :
    Assigns (key ++ '=' :: value) ⟨name, some v⟩ where
  start := by
    obtain ⟨c, rest, rfl, hc⟩ := h.start
    exact ⟨c, _, List.cons_append, hc⟩
  single := by
    intro hmem
    rcases List.mem_append.mp hmem with hmem | hmem
    · exact h.single hmem
    · rcases List.mem_cons.mp hmem with hmem | hmem
      · exact absurd hmem (by decide)
      · exact hsingle hmem
  read := by
    intro rest hrest
    obtain ⟨left, hread, hend⟩ := hvalue rest hrest
    rw [List.append_assoc, List.cons_append, readAssignment, h.dropExport_append, h.readName_append]
    have hblank : isLineBlank '=' = false := by decide
    simp only [bind, Except.bind, List.dropWhile_cons, hblank, Bool.false_eq_true, if_false, hread,
      Except.map, hend]
    rfl

end Spells

end StaticSite.DotEnv
