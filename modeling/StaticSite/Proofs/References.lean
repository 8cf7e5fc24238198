import Mathlib.Data.List.Infix
import StaticSite.Proofs.Cuts
import StaticSite.Settings.DotEnv

/-! Files of assignments without references. Where the text of a file holds no dollar sign before a
brace no value that it assigns does, whatever quotes, escapes and comments the line has: reading
takes values out of the text in one piece and puts nothing into them that a reference could begin
with. Such a file reads the same in every environment. -/

namespace StaticSite.DotEnv

/-- A text in which a reference may begin. -/
def Refers (t : Text) : Prop :=
  ['$', '{'] <:+: t

instance (t : Text) : Decidable (Refers t) :=
  inferInstanceAs (Decidable (_ <:+: _))

theorem Refers.of_isInfix {t u : Text} (h : Refers t) (htu : t <:+: u) : Refers u :=
  List.IsInfix.trans h htu

theorem refers_cons {c : Char} {t : Text} :
    Refers (c :: t) ↔ (c = '$' ∧ t.head? = some '{') ∨ Refers t := by
  rw [Refers, List.infix_cons_iff, List.cons_prefix_cons, Refers]
  refine or_congr_left (and_congr eq_comm ?_)
  cases t with
  | nil => simp
  | cons d t => simp [List.cons_prefix_cons, eq_comm]

/-! ### Replacing what is not there -/

theorem expandWithin_of_not_refers (find? : Text → Option Text) (count : Nat) {t : Text}
    (h : ¬ Refers t) : expandWithin find? count t = t := by
  induction count generalizing t with
  | zero => rfl
  | succ count ih =>
      cases t with
      | nil => rfl
      | cons c rest =>
          obtain ⟨hhere, hrest⟩ := not_or.mp (refers_cons.not.mp h)
          rw [expandWithin.eq_def]
          dsimp only
          split
          · exact absurd ⟨rfl, rfl⟩ hhere
          · rw [ih hrest]

theorem expand_of_not_refers (find? : Text → Option Text) {t : Text} (h : ¬ Refers t) :
    expand find? t = t :=
  expandWithin_of_not_refers find? t.length h

theorem expandAll_of_not_refers (environment : List (Text × Text)) (known as : List Assignment)
    (h : ∀ a ∈ as, ∀ v ∈ a.value, ¬ Refers v) : expandAll environment known as = known ++ as := by
  induction as generalizing known with
  | nil => exact (List.append_nil _).symm
  | cons a as ih =>
      have hvalue : a.value.map (expand (referent environment known)) = a.value := by
        cases hv : a.value with
        | none => rfl
        | some v => exact congrArg some (expand_of_not_refers _ (h a List.mem_cons_self v hv))
      rw [expandAll, hvalue, ih _ fun b hb => h b (List.mem_cons_of_mem a hb), List.append_assoc]
      rfl

/-! ### Newlines and escapes -/

theorem dropByteOrderMark_suffix (t : Text) : dropByteOrderMark t <:+ t := by
  unfold dropByteOrderMark
  split
  · split
    · exact List.suffix_cons _ _
    · exact List.suffix_rfl
  · exact List.suffix_rfl

theorem head?_unifyNewlines {t : Text} (h : (unifyNewlines t).head? = some '{') :
    t.head? = some '{' := by
  unfold unifyNewlines at h
  split at h
  · cases h
  · cases h
  · split at h
    · cases h
    · exact h

theorem Refers.of_unifyNewlines {t : Text} (h : Refers (unifyNewlines t)) : Refers t := by
  fun_induction unifyNewlines t with
  | case1 => exact h
  | case2 rest ih =>
      rcases refers_cons.mp h with ⟨hc, -⟩ | hrest
      · cases hc
      · exact (ih hrest).of_isInfix ((List.suffix_cons _ _).trans (List.suffix_cons _ _)).isInfix
  | case3 c rest _ ih =>
      refine refers_cons.mpr ((refers_cons.mp h).imp (fun ⟨hc, hrest⟩ => ?_) ih)
      refine ⟨?_, head?_unifyNewlines hrest⟩
      split at hc
      · cases hc
      · exact hc

/-- No escape means a character with which a reference begins. -/
def KeepsOut (escapes : List (Char × Char)) : Prop :=
  ∀ e ∈ escapes, e.2 ≠ '$' ∧ e.2 ≠ '{'

theorem keepsOut_singleEscapes : KeepsOut singleEscapes := by
  simp [KeepsOut, singleEscapes]

theorem keepsOut_doubleEscapes : KeepsOut doubleEscapes := by
  simp [KeepsOut, doubleEscapes]

section
variable {escapes : List (Char × Char)}

theorem KeepsOut.of_lookup (hescapes : KeepsOut escapes) {c d : Char}
    (h : escapes.lookup c = some d) : d ≠ '$' ∧ d ≠ '{' := by
  obtain ⟨before, after, rfl, -⟩ := List.lookup_eq_some_iff.mp h
  exact hescapes (c, d) (List.mem_append_right _ List.mem_cons_self)

theorem head?_unescape (hescapes : KeepsOut escapes) {t : Text}
    (h : (unescape escapes t).head? = some '{') : t.head? = some '{' := by
  unfold unescape at h
  split at h
  · cases h
  · exact h
  · split at h
    · split at h
      next hmeant => exact absurd (Option.some.inj h) (hescapes.of_lookup hmeant).2
      · exact h
    · exact h

theorem Refers.of_unescape (hescapes : KeepsOut escapes) {t : Text}
    (h : Refers (unescape escapes t)) : Refers t := by
  fun_induction unescape escapes t with
  | case1 => exact h
  | case2 => exact h
  | case3 d rest meant hmeant ih =>
      rcases refers_cons.mp h with ⟨hc, -⟩ | hrest
      · exact absurd hc (hescapes.of_lookup hmeant).1
      · exact (ih hrest).of_isInfix ((List.suffix_cons _ _).trans (List.suffix_cons _ _)).isInfix
  | case4 d rest _ ih =>
      exact refers_cons.mpr ((refers_cons.mp h).imp (And.imp_right (head?_unescape hescapes)) ih)
  | case5 c d rest _ ih =>
      exact refers_cons.mpr ((refers_cons.mp h).imp (And.imp_right (head?_unescape hescapes)) ih)

end

/-! ### What is read and what is left -/

/-- What a reader makes of a text: it leaves an end of the text, and what it has read is as `kept`
says. -/
def Leaves {α : Type} (t : Text) (kept : α → Prop) : Except Text (α × Text) → Prop
  | .ok (a, rest) => rest <:+ t ∧ kept a
  | .error left => left <:+ t

namespace Leaves
variable {α β : Type} {t u : Text} {kept : α → Prop} {kept' : β → Prop}
  {r : Except Text (α × Text)}

theorem of_suffix (h : Leaves t kept r) (htu : t <:+ u) : Leaves u kept r := by
  cases r with
  | error left => exact List.IsSuffix.trans h htu
  | ok read => exact ⟨h.1.trans htu, h.2⟩

theorem map {f : α → β} (h : Leaves t kept r) (hf : ∀ a, kept a → kept' (f a)) :
    Leaves t kept' (r.map fun (a, rest) => (f a, rest)) := by
  cases r with
  | error left => exact h
  | ok read => exact ⟨h.1, hf read.1 h.2⟩

theorem bind {f : α × Text → Except Text (β × Text)} (h : Leaves t kept r)
    (hf : ∀ a rest, rest <:+ t → kept a → Leaves t kept' (f (a, rest))) :
    Leaves t kept' (r >>= f) := by
  cases r with
  | error left => exact h
  | ok read => exact hf read.1 read.2 h.1 h.2

end Leaves

theorem cutQuoted?_eq_append {quote : Char} {t body after : Text}
    (h : cutQuoted? quote t = some (body, after)) : t = body ++ quote :: after := by
  fun_induction cutQuoted? quote t generalizing body with
  | case1 => cases h
  | case2 rest => cases h; rfl
  | case3 => cases h
  | case4 _ d rest ih =>
      obtain ⟨⟨body', after'⟩, hrest, heq⟩ := Option.map_eq_some_iff.mp h
      cases heq
      rw [ih hrest]
      rfl
  | case5 c rest _ _ ih =>
      obtain ⟨⟨body', after'⟩, hrest, heq⟩ := Option.map_eq_some_iff.mp h
      cases heq
      rw [ih hrest]
      rfl

theorem cutComment_isPrefix (blanks t : Text) : cutComment blanks t <+: blanks.reverse ++ t := by
  induction t generalizing blanks with
  | nil => rw [cutComment, List.append_nil]
  | cons c rest ih =>
      rw [cutComment]
      split
      · exact List.nil_prefix
      split
      · simpa using ih (c :: blanks)
      · exact (List.prefix_append_right_inj _).mpr (List.cons_prefix_cons.mpr ⟨rfl, ih []⟩)

theorem trimEnd_isPrefix (drop : Char → Bool) (t : Text) : Text.trimEnd drop t <+: t := by
  rw [← List.reverse_suffix, Text.trimEnd, List.reverse_reverse]
  exact List.dropWhile_suffix drop

theorem bareValue_isPrefix (line : Text) : bareValue line <+: line :=
  (trimEnd_isPrefix _ _).trans (cutComment_isPrefix [] line)

theorem leaves_readName (t : Text) : Leaves t (fun _ => True) (readName t) := by
  unfold readName
  split
  · exact List.suffix_rfl
  next c rest =>
    split
    · exact ⟨List.suffix_rfl, trivial⟩
    split
    · split
      next name after hcut =>
        split
        · exact List.suffix_rfl
        · refine ⟨List.IsSuffix.trans ?_ (List.suffix_cons c rest), trivial⟩
          rw [Text.eq_append_of_cutFirst? hcut]
          exact (List.suffix_cons _ after).trans (List.suffix_append name _)
      · exact List.suffix_rfl
    · dsimp only
      split
      · exact List.suffix_rfl
      · exact ⟨List.dropWhile_suffix _, trivial⟩

/-- A value between quotes is a piece of the text but for its escapes. -/
theorem leaves_quoted {escapes : List (Char × Char)} (hescapes : KeepsOut escapes) {quote c : Char}
    {t rest body after : Text} (hrest : c :: rest <:+ t)
    (hcut : cutQuoted? quote rest = some (body, after)) :
    Leaves t (fun v => Refers v → Refers t) (.ok (unescape escapes body, after)) := by
  rw [cutQuoted?_eq_append hcut] at hrest
  have hbody : body <:+: t :=
    ((List.prefix_append body _).isInfix.trans (List.suffix_cons c _).isInfix).trans hrest.isInfix
  have hafter : after <:+ t :=
    (((List.suffix_cons quote after).trans (List.suffix_append body _)).trans
      (List.suffix_cons c _)).trans hrest
  exact ⟨hafter, fun h => (h.of_unescape hescapes).of_isInfix hbody⟩

theorem leaves_readValue (t : Text) :
    Leaves t (fun v => Refers v → Refers t) (readValue t) := by
  have hstart := List.dropWhile_suffix (l := t) isLineBlank
  have hnone : Refers [] → Refers t := fun h => h.of_isInfix List.nil_prefix.isInfix
  unfold readValue
  dsimp only
  split
  next h => exact ⟨hstart, hnone⟩
  next c rest h =>
    rw [h] at hstart
    split
    · split
      next hcut => exact leaves_quoted keepsOut_singleEscapes hstart hcut
      · exact h ▸ hstart
    split
    · split
      next hcut => exact leaves_quoted keepsOut_doubleEscapes hstart hcut
      · exact h ▸ hstart
    split
    · exact ⟨h ▸ hstart, hnone⟩
    · rw [h]
      refine ⟨(List.dropWhile_suffix _).trans hstart, fun hv => hv.of_isInfix ?_⟩
      exact ((bareValue_isPrefix _).trans (List.takeWhile_prefix _)).isInfix.trans hstart.isInfix

theorem readLineEnd_suffix {t left : Text}
    (h : readLineEnd t = .ok left ∨ readLineEnd t = .error left) : left <:+ t := by
  have hblanks := List.dropWhile_suffix (l := t) isLineBlank
  unfold readLineEnd at h
  dsimp only at h
  split at h
  · rcases h with h | h <;> cases h
    exact List.nil_suffix
  · rename_i c after hcut
    have hrest : c :: after <:+ t := by
      rw [← hcut]
      split
      · exact (List.dropWhile_suffix _).trans hblanks
      · exact hblanks
    split at h <;> rcases h with h | h <;> cases h
    · exact (List.suffix_cons c _).trans hrest
    · rwa [hcut]

theorem dropExport_suffix (t : Text) : dropExport t <:+ t := by
  unfold dropExport
  split
  next rest h =>
    split
    · split
      · refine (List.dropWhile_suffix _).trans ?_
        rw [← List.append_eq_of_isPrefixOf?_eq_some h]
        exact List.suffix_append _ _
      · exact List.suffix_rfl
    · exact List.suffix_rfl
  · exact List.suffix_rfl

/-- What an assignment says comes out of the text that it is read from. -/
def ComesFrom (t : Text) (a : Assignment) : Prop :=
  ∀ v ∈ a.value, Refers v → Refers t

theorem ComesFrom.of_suffix {t u : Text} {a : Assignment} (h : ComesFrom t a) (htu : t <:+ u) :
    ComesFrom u a :=
  fun v hv hrefers => (h v hv hrefers).of_isInfix htu.isInfix

theorem leaves_ended (name : Option Text) {value : Option Text} {t rest : Text} (hrest : rest <:+ t)
    (hvalue : ∀ v ∈ value, Refers v → Refers t) :
    Leaves t (fun found => ∀ a ∈ found, ComesFrom t a) (do
      let rest ← readLineEnd rest
      return (name.map fun name => ⟨name, value⟩, rest)) := by
  cases hend : readLineEnd rest with
  | error left => exact (readLineEnd_suffix (Or.inr hend)).trans hrest
  | ok rest' =>
      refine ⟨(readLineEnd_suffix (Or.inl hend)).trans hrest, fun a ha => ?_⟩
      obtain ⟨name, -, rfl⟩ := Option.map_eq_some_iff.mp ha
      exact hvalue

theorem leaves_readAssignment (t : Text) :
    Leaves t (fun found => ∀ a ∈ found, ComesFrom t a) (readAssignment t) := by
  unfold readAssignment
  refine ((leaves_readName _).of_suffix (dropExport_suffix t)).bind fun name rest hname _ => ?_
  have hrest := (List.dropWhile_suffix (l := rest) isLineBlank).trans hname
  dsimp only
  split
  next after heq =>
    have hafter : after <:+ t := (List.suffix_cons '=' after).trans (heq ▸ hrest)
    have hvalue : Leaves t (fun value : Option Text => ∀ v ∈ value, Refers v → Refers t)
        ((readValue after).map fun found => (some found.1, found.2)) := by
      refine ((leaves_readValue after).of_suffix hafter).map ?_
      rintro v hv _ ⟨⟩ hrefers
      exact (hv hrefers).of_isInfix hafter.isInfix
    exact hvalue.bind fun value rest hrest hvalue => leaves_ended name hrest hvalue
  · exact leaves_ended name hrest fun _ h => by cases h

theorem comesFrom_of_mem_readAll {count : Nat} {t : Text} {a : Assignment}
    (ha : a ∈ readAll count t) : ComesFrom t a := by
  induction count generalizing t with
  | zero => cases ha
  | succ count ih =>
      have hblanks := List.dropWhile_suffix (l := t) Text.isBlank
      rw [readAll] at ha
      cases hstart : t.dropWhile Text.isBlank with
      | nil =>
          rw [hstart] at ha
          cases ha
      | cons c after =>
          rw [hstart] at ha hblanks
          have hread := leaves_readAssignment (c :: after)
          dsimp only at ha
          split at ha
          next found rest heq =>
            rw [heq] at hread
            rcases List.mem_append.mp ha with ha | ha
            · exact (hread.2 a (Option.mem_toList.mp ha)).of_suffix hblanks
            · exact (ih ha).of_suffix (hread.1.trans hblanks)
          next left heq =>
            rw [heq] at hread
            refine (ih ha).of_suffix (List.IsSuffix.trans ?_ (List.IsSuffix.trans hread hblanks))
            exact (List.drop_suffix 1 _).trans (List.dropWhile_suffix _)

/-- The assignments that a text writes, whatever they refer to. -/
def written (t : Text) : List Assignment :=
  assignments (unifyNewlines (dropByteOrderMark t))

/-- A text without references is read as it is written, in every environment. -/
theorem read_of_not_refers {t : Text} (h : ¬ Refers t) (environment : List (Text × Text)) :
    read environment t = written t := by
  refine expandAll_of_not_refers environment [] (written t) fun a ha v hv hrefers => h ?_
  exact (comesFrom_of_mem_readAll ha v hv hrefers).of_unifyNewlines.of_isInfix
    (dropByteOrderMark_suffix t).isInfix

end StaticSite.DotEnv
