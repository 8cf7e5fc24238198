import Mathlib
import StaticSite.Text.LetterCase

/-! Lower case and the letters `A` to `Z`. The lower case of a text, by all the rules for letters and
for sigma at the end of a word, is that of the text with these letters in lower case already. -/

namespace StaticSite.Text

/-! ### Characters -/

/-- What holds of twenty-six characters holds of each capital letter of ASCII. -/
theorem forall_isUpper {P : Char → Prop} (h : ∀ n ∈ List.range' 65 26, P (Char.ofNat n)) (c : Char)
    (hc : c.isUpper = true) : P c := by
  have hbounds : 65 ≤ c.toNat ∧ c.toNat ≤ 90 := of_decide_eq_true hc
  rw [← Char.ofNat_toNat c]
  apply h
  rw [List.mem_range'_1]
  omega

/-- Whether a character is in one of some ranges. -/
def isWithin (ranges : List (Nat × Nat)) (c : Char) : Bool :=
  ranges.any fun (first, last) => first ≤ c.toNat && c.toNat ≤ last

/-- Ranges with all letters of ASCII, or with none, do not tell their cases apart. -/
theorem isWithin_toLower {ranges : List (Nat × Nat)}
    (h : ∀ n ∈ List.range' 65 26, isWithin ranges (Char.ofNat n).toLower =
      isWithin ranges (Char.ofNat n)) (c : Char) : isWithin ranges c.toLower = isWithin ranges c := by
  by_cases hc : c.isUpper = true
  · exact forall_isUpper (P := fun c => isWithin ranges c.toLower = isWithin ranges c) h c hc
  · rw [Char.toLower_eq_of_not_isUpper hc]

theorem casedNext_eq (t : Text) :
    casedNext t = (t.dropWhile (isWithin caseIgnorableRanges)).head?.any (isWithin casedRanges) := by
  simp only [casedNext]
  split
  next h =>
    have hnil : t.dropWhile (isWithin caseIgnorableRanges) = [] := h
    rw [hnil]
    rfl
  next c rest h =>
    have hcons : t.dropWhile (isWithin caseIgnorableRanges) = c :: rest := h
    rw [hcons]
    rfl

theorem casedNext_asciiLower (t : Text) : casedNext t.asciiLower = casedNext t := by
  have hignorable : isWithin caseIgnorableRanges ∘ Char.toLower = isWithin caseIgnorableRanges :=
    funext <| isWithin_toLower (by decide +kernel)
  have hcased : isWithin casedRanges ∘ Char.toLower = isWithin casedRanges :=
    funext <| isWithin_toLower (by decide +kernel)
  rw [casedNext_eq, casedNext_eq, asciiLower, List.dropWhile_map, hignorable, List.head?_map,
    Option.any_map]
  exact congrArg (Option.any · _) hcased

/-! ### Texts -/

/-- The lower case of a letter for which nothing around it counts. -/
def ownLower (c : Char) : Text :=
  [Char.ofNat ((lowerRuns.findSome? (CaseRun.map? · c.toNat)).getD c.toNat)]

/-- Whether the lower case of a letter is its own. -/
def IsPlain (c : Char) : Prop :=
  c.toNat ≠ 0x3a3 ∧ c.toNat ≠ 0x130

instance (c : Char) : Decidable (IsPlain c) :=
  inferInstanceAs (Decidable (_ ∧ _))

theorem lowerChar_of_isPlain {c : Char} (h : IsPlain c) (before after : Text) :
    lowerChar before c after = ownLower c := by
  rw [lowerChar, if_neg h.1, if_neg h.2, ownLower]

theorem ownLower_toLower : ∀ n ∈ List.range' 65 26, IsPlain (Char.ofNat n) ∧
    IsPlain (Char.ofNat n).toLower ∧ ownLower (Char.ofNat n).toLower = ownLower (Char.ofNat n) := by
  decide +kernel

theorem lowerChar_asciiLower (before : Text) (c : Char) (after : Text) :
    lowerChar before.asciiLower c.toLower after.asciiLower = lowerChar before c after := by
  by_cases hc : c.isUpper = true
  · obtain ⟨hplain, hsmall, hsame⟩ := forall_isUpper
      (P := fun c => IsPlain c ∧ IsPlain c.toLower ∧ ownLower c.toLower = ownLower c)
      ownLower_toLower c hc
    rw [lowerChar_of_isPlain hplain, lowerChar_of_isPlain hsmall, hsame]
  · rw [Char.toLower_eq_of_not_isUpper hc, lowerChar, lowerChar, casedNext_asciiLower, casedNext_asciiLower]

theorem lowerAfter_asciiLower (before t : Text) :
    lowerAfter before.asciiLower t.asciiLower = lowerAfter before t := by
  induction t generalizing before with
  | nil => rfl
  | cons c t ih =>
      have hfirst := lowerChar_asciiLower before c t
      have hrest := ih (c :: before)
      rw [lowerAfter, ← hfirst, ← hrest]
      rfl

/-- Capital letters of ASCII make no difference to the lower case of a text. -/
theorem lower_asciiLower (t : Text) : t.asciiLower.lower = t.lower :=
  lowerAfter_asciiLower [] t

end StaticSite.Text
