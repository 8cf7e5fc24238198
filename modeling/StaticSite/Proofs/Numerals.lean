import StaticSite.Number.Grouped
import StaticSite.Proofs.HeaderValues

/-! Numbers in decimal digits. A run of digits, with zeros in front or without, is read as the number
that it denotes, unless there are more digits than are read at all. What a text is padded with is taken
off before it is read. -/

namespace StaticSite

namespace Text

/-! ### Padding -/

theorem dropWhile_padded {drop : Char → Bool} {first core : Text}
    (hfirst : ∀ c ∈ first, drop c = true) (hhead : ∀ c ∈ core.head?, drop c = false) :
    (first ++ core).dropWhile drop = core := by
  rw [List.dropWhile_append_of_pos hfirst]
  cases core with
  | nil => rfl
  | cons c rest => rw [List.dropWhile_cons, hhead c rfl, if_neg Bool.false_ne_true]

/-- What a text is padded with is taken off, if the text neither begins nor ends with it. -/
theorem trim_padded {drop : Char → Bool} {first core last : Text}
    (hfirst : ∀ c ∈ first, drop c = true) (hlast : ∀ c ∈ last, drop c = true) (hne : core ≠ [])
    (hhead : ∀ c ∈ core.head?, drop c = false) (hend : ∀ c ∈ core.getLast?, drop c = false) :
    trim drop (first ++ core ++ last) = core := by
  have hbegin : ∀ c ∈ (core ++ last).head?, drop c = false := by
    obtain ⟨c, rest, rfl⟩ := List.exists_cons_of_ne_nil hne
    exact hhead
  have hreversed : (last.reverse ++ core.reverse).dropWhile drop = core.reverse := by
    refine dropWhile_padded (fun c hc => hlast c (List.mem_reverse.mp hc)) ?_
    rwa [List.head?_reverse]
  rw [List.append_assoc, trim, dropWhile_padded hfirst hbegin, trimEnd, List.reverse_append,
    hreversed, List.reverse_reverse]

theorem mem_dropWhile {drop : Char → Bool} {t : Text} {c : Char} (hc : c ∈ t) (hkept : drop c = false) :
    c ∈ t.dropWhile drop := by
  induction t with
  | nil => cases hc
  | cons d rest ih =>
      cases hdrop : drop d with
      | false => rwa [List.dropWhile_cons, hdrop, if_neg Bool.false_ne_true]
      | true =>
          have hne : c ≠ d := by
            rintro rfl
            rw [hkept] at hdrop
            cases hdrop
          rw [List.dropWhile_cons, hdrop, if_pos rfl]
          exact ih (List.mem_of_ne_of_mem hne hc)

/-- What is not padding stays in a text. -/
theorem mem_trim {drop : Char → Bool} {t : Text} {c : Char} (hc : c ∈ t) (hkept : drop c = false) :
    c ∈ trim drop t := by
  rw [trim, trimEnd, List.mem_reverse]
  exact mem_dropWhile (List.mem_reverse.mpr (mem_dropWhile hc hkept)) hkept

/-- A text without padding is left as it is. -/
theorem trim_of_ends {drop : Char → Bool} {t : Text} (hhead : ∀ c ∈ t.head?, drop c = false)
    (hend : ∀ c ∈ t.getLast?, drop c = false) : trim drop t = t := by
  by_cases hne : t = []
  · rw [hne]
    rfl
  · have hpadded : trim drop ([] ++ t ++ []) = t := trim_padded nofun nofun hne hhead hend
    rwa [List.nil_append, List.append_nil] at hpadded

/-! ### Digits -/

/-- A run of decimal digits, one at least. -/
structure IsNumeral (t : Text) : Prop where
  notEmpty : t ≠ []
  digits : ∀ c ∈ t, isDigit c = true

instance (t : Text) : Decidable t.IsNumeral :=
  decidable_of_iff (t ≠ [] ∧ t.all isDigit = true)
    ⟨fun h => ⟨h.1, List.all_eq_true.mp h.2⟩, fun h => ⟨h.notEmpty, List.all_eq_true.mpr h.digits⟩⟩

theorem IsNumeral.not_mem {t : Text} (h : t.IsNumeral) {c : Char} (hc : isDigit c = false) : c ∉ t := by
  intro hmem
  rw [h.digits c hmem] at hc
  cases hc

theorem isDigit_eq (c : Char) : isDigit c = c.isDigit := by
  rfl

theorem toNat_of_isDigit {c : Char} (h : isDigit c = true) : 48 ≤ c.toNat ∧ c.toNat ≤ 57 := by
  rw [isDigit, Bool.and_eq_true, decide_eq_true_eq, decide_eq_true_eq] at h
  exact h

theorem isNumeral_ofNat (n : Nat) : (ofNat n).IsNumeral where
  notEmpty := ofNat_ne_nil n
  digits c hc := by
    rw [isDigit_eq]
    exact Nat.isDigit_of_mem_toDigits (by decide) (by decide) hc

theorem isNumeral_digitsIn (width n : Nat) : (digitsIn 10 width n).IsNumeral where
  notEmpty := by
    rw [digitsIn]
    exact List.append_ne_nil_of_right_ne_nil _ (ofNat_ne_nil n)
  digits c hc := by
    rcases List.mem_append.mp hc with hc | hc
    · rw [(List.mem_replicate.mp hc).2]
      decide
    · exact (isNumeral_ofNat n).digits c hc

/-- Zeros in front of a number make no difference. -/
theorem natOfDigits_digitsIn (width n : Nat) : natOfDigits (digitsIn 10 width n) = n := by
  have hzeros : ∀ count : Nat, (List.replicate count '0').foldl
      (fun n c => 10 * n + (c.toNat - 48)) 0 = 0 := by
    intro count
    induction count with
    | zero => rfl
    | succ count ih =>
        rw [List.replicate_succ, List.foldl_cons]
        exact ih
  rw [digitsIn, natOfDigits, List.foldl_append, hzeros]
  exact natOfDigits_ofNat n

theorem length_digitsIn {width n : Nat} (h : (ofNat n).length ≤ width) :
    (digitsIn 10 width n).length = width := by
  rw [digitsIn, List.length_append, List.length_replicate]
  exact Nat.sub_add_cancel h

end Text

namespace Number

open Text

theorem isWhiteSpace_of_isDigit {c : Char} (h : isDigit c = true) : isWhiteSpace c = false := by
  have hbounds := toNat_of_isDigit h
  simp only [isWhiteSpace]
  simp
  omega

theorem isBlank_of_isDigit {c : Char} (h : isDigit c = true) : isBlank c = false := by
  have hbounds := toNat_of_isDigit h
  rw [isBlank, isWhiteSpace_of_isDigit h, Bool.false_or, Bool.and_eq_false_iff]
  right
  rw [decide_eq_false_iff_not]
  omega

theorem strip_of_isNumeral {t : Text} (h : t.IsNumeral) : t.strip = t :=
  trim_of_ends (fun c hc => isBlank_of_isDigit (h.digits c (List.mem_of_mem_head? hc)))
    fun c hc => isBlank_of_isDigit (h.digits c (List.mem_of_mem_getLast? hc))

theorem ungroup?_of_isNumeral {t : Text} (h : t.IsNumeral) : ungroup? t = some t := by
  obtain ⟨hne, hdigits⟩ := h
  induction t with
  | nil => exact absurd rfl hne
  | cons c rest ih =>
      obtain ⟨hc, hrest⟩ := List.forall_mem_cons.mp hdigits
      cases rest with
      | nil => exact if_pos hc
      | cons d after =>
          have hd : d ≠ '_' := by
            rintro rfl
            exact absurd (hrest '_' List.mem_cons_self) (by decide)
          rw [ungroup?.eq_def]
          simp only [hc, if_true, if_neg hd, ih (List.cons_ne_nil _ _) hrest, Option.map_some]

theorem cutSign_of_isNumeral {t : Text} (h : t.IsNumeral) : cutSign t = (false, t) := by
  obtain ⟨c, rest, rfl⟩ := List.exists_cons_of_ne_nil h.notEmpty
  have hc := h.digits c List.mem_cons_self
  unfold cutSign
  split
  · rename_i heq
    cases heq
    exact absurd hc (by decide)
  · rename_i heq
    cases heq
    exact absurd hc (by decide)
  · rfl

/-- A run of digits is read as the number that it denotes, or not at all if it is too long. -/
theorem readInt?_of_isNumeral {t : Text} (h : t.IsNumeral) :
    readInt? t = if t.length ≤ maxDigits then some (natOfDigits t : Int) else none := by
  have htrim : t.trim isWhiteSpace = t := by
    refine trim_of_ends (fun c hc => ?_) fun c hc => ?_
    · exact isWhiteSpace_of_isDigit (h.digits c (List.mem_of_mem_head? hc))
    · exact isWhiteSpace_of_isDigit (h.digits c (List.mem_of_mem_getLast? hc))
  simp only [readInt?, htrim, cutSign_of_isNumeral h, ungroup?_of_isNumeral h]
  rfl

end Number

end StaticSite
