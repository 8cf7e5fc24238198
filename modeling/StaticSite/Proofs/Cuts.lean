import StaticSite.Text.Basic
import StaticSite.Url.Basic

/-! Cutting a text at a character: what stands before the first one is as it was, and where there is
none nothing is cut. -/

namespace StaticSite

namespace Text

theorem cutFirst?_of_not_mem {sep : Char} {t : Text} (h : sep ∉ t) : cutFirst? sep t = none := by
  induction t with
  | nil => rfl
  | cons c rest ih =>
      obtain ⟨hc, hrest⟩ := List.ne_and_not_mem_of_not_mem_cons h
      rw [cutFirst?, if_neg (Ne.symm hc), ih hrest]
      rfl

theorem exists_cutFirst?_of_mem {sep : Char} {t : Text} (h : sep ∈ t) :
    ∃ parts, cutFirst? sep t = some parts := by
  induction t with
  | nil => cases h
  | cons c rest ih =>
      rw [cutFirst?]
      split
      next => exact ⟨_, rfl⟩
      next hc =>
        obtain ⟨parts, hparts⟩ := ih (List.mem_of_ne_of_mem (Ne.symm hc) h)
        rw [hparts]
        exact ⟨_, rfl⟩

/-- A text without the character stands before the cut as a whole. -/
theorem cutFirst?_append {sep : Char} {s : Text} (h : sep ∉ s) (t : Text) :
    cutFirst? sep (s ++ t) = (cutFirst? sep t).map fun (before, after) => (s ++ before, after) := by
  induction s with
  | nil =>
      rw [List.nil_append]
      cases cutFirst? sep t <;> rfl
  | cons c rest ih =>
      obtain ⟨hc, hrest⟩ := List.ne_and_not_mem_of_not_mem_cons h
      rw [List.cons_append, cutFirst?, if_neg (Ne.symm hc), ih hrest]
      cases cutFirst? sep t <;> rfl

theorem cutFirst?_append_cons {sep : Char} {s : Text} (h : sep ∉ s) (t : Text) :
    cutFirst? sep (s ++ sep :: t) = some (s, t) := by
  rw [cutFirst?_append h, cutFirst?, if_pos rfl, Option.map_some]
  simp only [List.append_nil]

/-- What follows a cut text stands behind the cut. -/
theorem cutFirst?_append_of_some {sep : Char} {s before after : Text}
    (h : cutFirst? sep s = some (before, after)) (t : Text) :
    cutFirst? sep (s ++ t) = some (before, after ++ t) := by
  induction s generalizing before with
  | nil => cases h
  | cons c rest ih =>
      rw [cutFirst?] at h
      rw [List.cons_append, cutFirst?]
      split at h
      next hc =>
        cases h
        rw [if_pos hc]
      next hc =>
        obtain ⟨⟨before', after'⟩, hrest, heq⟩ := Option.map_eq_some_iff.mp h
        cases heq
        rw [if_neg hc, ih hrest]
        rfl

theorem eq_append_of_cutFirst? {sep : Char} {t before after : Text}
    (h : cutFirst? sep t = some (before, after)) : t = before ++ sep :: after := by
  induction t generalizing before with
  | nil => cases h
  | cons c rest ih =>
      rw [cutFirst?] at h
      split at h
      next hc =>
        cases h
        rw [hc, List.nil_append]
      · obtain ⟨⟨before', after'⟩, hrest, heq⟩ := Option.map_eq_some_iff.mp h
        cases heq
        rw [ih hrest, List.cons_append]

theorem not_mem_of_cutFirst? {sep : Char} {t before after : Text}
    (h : cutFirst? sep t = some (before, after)) : sep ∉ before := by
  induction t generalizing before with
  | nil => cases h
  | cons c rest ih =>
      rw [cutFirst?] at h
      split at h
      next hc =>
        cases h
        exact List.not_mem_nil
      next hc =>
        obtain ⟨⟨before', after'⟩, hrest, heq⟩ := Option.map_eq_some_iff.mp h
        cases heq
        exact List.not_mem_cons_of_ne_of_not_mem (Ne.symm hc) (ih hrest)

/-! ### All cuts -/

theorem splitOn_of_not_mem {sep : Char} {t : Text} (h : sep ∉ t) : splitOn sep t = [t] := by
  induction t with
  | nil => rfl
  | cons c rest ih =>
      obtain ⟨hc, hrest⟩ := List.ne_and_not_mem_of_not_mem_cons h
      rw [splitOn, if_neg (Ne.symm hc), ih hrest]

theorem splitOn_append_cons {sep : Char} {s : Text} (h : sep ∉ s) (t : Text) :
    splitOn sep (s ++ sep :: t) = s :: splitOn sep t := by
  induction s with
  | nil => rw [List.nil_append, splitOn, if_pos rfl]
  | cons c rest ih =>
      obtain ⟨hc, hrest⟩ := List.ne_and_not_mem_of_not_mem_cons h
      rw [List.cons_append, splitOn, if_neg (Ne.symm hc), ih hrest]

/-- Parts that are joined by a character which none of them holds are parted again. -/
theorem splitOn_joinWith {sep : Char} {parts : List Text} (hne : parts ≠ [])
    (h : ∀ part ∈ parts, sep ∉ part) : splitOn sep (joinWith [sep] parts) = parts := by
  induction parts with
  | nil => exact absurd rfl hne
  | cons part rest ih =>
      obtain ⟨hpart, hrest⟩ := List.forall_mem_cons.mp h
      cases rest with
      | nil => exact splitOn_of_not_mem hpart
      | cons next rest =>
          rw [joinWith, List.append_assoc]
          exact (splitOn_append_cons hpart _).trans
            (congrArg (part :: ·) (ih (List.cons_ne_nil _ _) hrest))

theorem splitOn_ne_nil (sep : Char) (t : Text) : splitOn sep t ≠ [] := by
  cases t with
  | nil => exact List.cons_ne_nil _ _
  | cons c rest =>
      rw [splitOn]
      split
      · exact List.cons_ne_nil _ _
      · split <;> exact List.cons_ne_nil _ _

/-- Parts that are joined by what the text was cut at are the text again. -/
theorem joinWith_splitOn (sep : Char) (t : Text) : joinWith [sep] (splitOn sep t) = t := by
  induction t with
  | nil => rfl
  | cons c rest ih =>
      rw [splitOn]
      cases hparts : splitOn sep rest with
      | nil => exact absurd hparts (splitOn_ne_nil sep rest)
      | cons part parts =>
          rw [hparts] at ih
          split
          · rw [joinWith, ih, List.nil_append, ‹c = sep›]
            rfl
          · have hpart : joinWith [sep] ((c :: part) :: parts) = c :: joinWith [sep] (part :: parts) := by
              cases parts <;> rfl
            rw [hpart, ih]

/-- No part holds the character at which the text was cut. -/
theorem not_mem_of_mem_splitOn {sep : Char} {t part : Text} (hpart : part ∈ splitOn sep t) :
    sep ∉ part := by
  induction t generalizing part with
  | nil =>
      rw [splitOn, List.mem_singleton] at hpart
      rw [hpart]
      exact List.not_mem_nil
  | cons d rest ih =>
      rw [splitOn] at hpart
      split at hpart
      · rcases List.mem_cons.mp hpart with rfl | hpart
        · exact List.not_mem_nil
        · exact ih hpart
      next hd =>
        cases hrest : splitOn sep rest with
        | nil =>
            rw [hrest, List.mem_singleton] at hpart
            rw [hpart]
            exact fun hmem => hd (List.mem_singleton.mp hmem).symm
        | cons first parts =>
            rw [hrest] at hpart ih
            rcases List.mem_cons.mp hpart with rfl | hpart
            · exact List.not_mem_cons_of_ne_of_not_mem (Ne.symm hd) (ih List.mem_cons_self)
            · exact ih (List.mem_cons_of_mem first hpart)

theorem mem_of_mem_splitOn {sep c : Char} {t part : Text} (hpart : part ∈ splitOn sep t)
    (hc : c ∈ part) : c ∈ t := by
  induction t generalizing part with
  | nil =>
      rw [splitOn, List.mem_singleton] at hpart
      rw [hpart] at hc
      cases hc
  | cons d rest ih =>
      rw [splitOn] at hpart
      split at hpart
      · rcases List.mem_cons.mp hpart with rfl | hpart
        · cases hc
        · exact List.mem_cons_of_mem _ (ih hpart hc)
      · split at hpart
        · rename_i hnil
          rw [List.mem_singleton.mp hpart] at hc
          exact List.mem_singleton.mp hc ▸ List.mem_cons_self
        · rename_i first parts hparts
          rw [hparts] at ih
          rcases List.mem_cons.mp hpart with rfl | hpart
          · rcases List.mem_cons.mp hc with rfl | hc
            · exact List.mem_cons_self
            · exact List.mem_cons_of_mem _ (ih List.mem_cons_self hc)
          · exact List.mem_cons_of_mem _ (ih (List.mem_cons_of_mem _ hpart) hc)

/-- Each character of a text is one at which it is cut, or stands in one of the parts. -/
theorem mem_splitOn_of_mem (sep : Char) {c : Char} {t : Text} (h : c ∈ t) :
    c = sep ∨ ∃ part ∈ splitOn sep t, c ∈ part := by
  induction t with
  | nil => cases h
  | cons d rest ih =>
      rw [splitOn]
      split
      next hd =>
        rcases List.mem_cons.mp h with rfl | h
        · exact Or.inl hd
        · rcases ih h with hsep | ⟨part, hpart, hc⟩
          · exact Or.inl hsep
          · exact Or.inr ⟨part, List.mem_cons_of_mem _ hpart, hc⟩
      next =>
        cases hrest : splitOn sep rest with
        | nil =>
            rw [hrest] at ih
            rcases List.mem_cons.mp h with rfl | h
            · exact Or.inr ⟨[c], List.mem_singleton_self _, List.mem_singleton_self _⟩
            · rcases ih h with hsep | ⟨part, hpart, -⟩
              · exact Or.inl hsep
              · cases hpart
        | cons first parts =>
            rw [hrest] at ih
            have hfirst : ∀ x ∈ d :: first, ∃ part ∈ (d :: first) :: parts, x ∈ part :=
              fun x hx => ⟨_, List.mem_cons_self, hx⟩
            rcases List.mem_cons.mp h with rfl | h
            · exact Or.inr (hfirst c List.mem_cons_self)
            · rcases ih h with hsep | ⟨part, hpart, hc⟩
              · exact Or.inl hsep
              · rcases List.mem_cons.mp hpart with rfl | hpart
                · exact Or.inr (hfirst c (List.mem_cons_of_mem _ hc))
                · exact Or.inr ⟨part, List.mem_cons_of_mem _ hpart, hc⟩

/-! ### Beginnings and ends -/

/-- A text that begins with what ends a run adds nothing to a run before it. -/
theorem takeWhile_append_of_ends {p : Char → Bool} (s : Text) {tail : Text}
    (h : tail.takeWhile p = []) : (s ++ tail).takeWhile p = s.takeWhile p := by
  rw [List.takeWhile_append, h]
  split
  · rename_i hwhole
    rw [List.append_nil]
    exact ((List.takeWhile_prefix p).eq_of_length hwhole).symm
  · rfl

theorem isPrefixOf?_append (front rest : Text) :
    front.isPrefixOf? (front ++ rest) = some rest := by
  induction front with
  | nil => rfl
  | cons c front ih =>
      have hcons : (c :: front).isPrefixOf? (c :: front ++ rest) =
          if c == c then front.isPrefixOf? (front ++ rest) else none := rfl
      rw [hcons, beq_self_eq_true, if_pos rfl, ih]

/-- The last character of a text does not depend on what stands before it. -/
theorem endsWith_append_cons (front : Text) (c : Char) (rest : Text) (last : Char) :
    endsWith (front ++ c :: rest) [last] = endsWith (c :: rest) [last] := by
  obtain ⟨d, before, hlast⟩ : ∃ d before, (c :: rest).reverse = d :: before :=
    List.exists_cons_of_ne_nil (by simp)
  rw [endsWith, endsWith, List.reverse_append, hlast]
  rfl

theorem mem_of_endsWith {t : Text} {last : Char} (h : endsWith t [last] = true) : last ∈ t := by
  have hbegins : [last] <+: t.reverse := List.isPrefixOf_iff_prefix.mp h
  exact List.mem_reverse.mp (hbegins.subset (List.mem_singleton_self last))

/-! ### Letters and digits -/

theorem isAlphanum_iff {c : Char} :
    c.isAlphanum = true ↔
      ((c.val ≥ 'A'.val ∧ c.val ≤ 'Z'.val) ∨ (c.val ≥ 'a'.val ∧ c.val ≤ 'z'.val)) ∨
        (c.val ≥ '0'.val ∧ c.val ≤ '9'.val) := by
  have heq : c.isAlphanum =
      ((decide (c.val ≥ 'A'.val ∧ c.val ≤ 'Z'.val) ||
        (decide (c.val ≥ 'a'.val) && decide (c.val ≤ 'z'.val))) ||
          (decide (c.val ≥ '0'.val) && decide (c.val ≤ '9'.val))) := rfl
  simp only [heq, Bool.or_eq_true, Bool.and_eq_true, decide_eq_true_eq]

/-- Letters and digits lie between the first digit and the last small letter. -/
theorem toNat_of_isAlphanum {c : Char} (h : c.isAlphanum = true) :
    '0'.toNat ≤ c.toNat ∧ c.toNat ≤ 'z'.toNat := by
  rcases isAlphanum_iff.mp h with (⟨hge, hle⟩ | ⟨hge, hle⟩) | ⟨hge, hle⟩
  · exact ⟨Nat.le_trans (by decide) hge, Nat.le_trans hle (by decide)⟩
  · exact ⟨Nat.le_trans (by decide) hge, hle⟩
  · exact ⟨hge, Nat.le_trans hle (by decide)⟩

end Text

namespace Url

theorem cutAt_of_not_mem {mark : Char} {t : Text} (h : mark ∉ t) : cutAt mark t = (t, []) := by
  rw [cutAt, Text.cutFirst?_of_not_mem h]
  rfl

theorem cutAt_append_cons {mark : Char} {s : Text} (h : mark ∉ s) (t : Text) :
    cutAt mark (s ++ mark :: t) = (s, t) := by
  rw [cutAt, Text.cutFirst?_append_cons h]
  rfl

/-- What stands before another mark stays before it. -/
theorem cutAt_append {mark : Char} {s : Text} (h : mark ∉ s) (t : Text) :
    cutAt mark (s ++ t) = (s ++ (cutAt mark t).1, (cutAt mark t).2) := by
  rw [cutAt, cutAt, Text.cutFirst?_append h]
  cases Text.cutFirst? mark t <;> simp

/-- A text that begins with another character keeps it. -/
theorem cutAt_cons {mark c : Char} (h : c ≠ mark) (t : Text) :
    cutAt mark (c :: t) = (c :: (cutAt mark t).1, (cutAt mark t).2) :=
  cutAt_append (List.not_mem_cons_of_ne_of_not_mem h.symm List.not_mem_nil) t

/-- Nothing behind a mark counts for what stands before it. -/
theorem cutAt_append_of_mem {mark : Char} {s : Text} (h : mark ∈ s) (t : Text) :
    cutAt mark (s ++ t) = ((cutAt mark s).1, (cutAt mark s).2 ++ t) := by
  obtain ⟨⟨before, after⟩, hcut⟩ := Text.exists_cutFirst?_of_mem h
  rw [cutAt, cutAt, Text.cutFirst?_append_of_some hcut, hcut]
  rfl

theorem not_mem_cutAt (mark : Char) (t : Text) : mark ∉ (cutAt mark t).1 := by
  by_cases h : mark ∈ t
  · obtain ⟨⟨before, after⟩, hcut⟩ := Text.exists_cutFirst?_of_mem h
    rw [cutAt, hcut]
    exact Text.not_mem_of_cutFirst? hcut
  · rw [cutAt_of_not_mem h]
    exact h

theorem mem_of_mem_cutAt {mark c : Char} {t : Text} (h : c ∈ (cutAt mark t).1) : c ∈ t := by
  by_cases hmark : mark ∈ t
  · obtain ⟨⟨before, after⟩, hcut⟩ := Text.exists_cutFirst?_of_mem hmark
    rw [cutAt, hcut] at h
    rw [Text.eq_append_of_cutFirst? hcut]
    exact List.mem_append_left _ h
  · rwa [cutAt_of_not_mem hmark] at h

end Url

end StaticSite
