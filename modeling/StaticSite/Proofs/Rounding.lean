import StaticSite.Http.Validator
import Mathlib.Algebra.Order.Field.Power
import Mathlib.Algebra.Order.Field.Rat
import Mathlib.Data.Nat.Cast.Order.Field
import Mathlib.Data.Rat.Cast.Order
import Mathlib.Tactic.FieldSimp
import Mathlib.Tactic.Linarith
import Mathlib.Tactic.Positivity
import Mathlib.Tactic.Ring

/-! How far rounding can lead. A rounded number is at most twice as great as what it was rounded from,
however small that was; so the seconds of a time are bounded by its whole seconds. -/

namespace StaticSite

namespace Number

theorem roundHalfEven_mul_le (num den : Nat) : roundHalfEven num den * den ≤ 2 * num := by
  have hdivision : num / den * den + num % den = num := Nat.div_add_mod' num den
  have hdown : num / den * den ≤ 2 * num := by omega
  have hup : den ≤ 2 * (num % den) → (num / den + 1) * den ≤ 2 * num := by
    intro h
    rw [Nat.add_mul, Nat.one_mul]
    omega
  simp only [roundHalfEven]
  split
  · exact hdown
  split
  · exact hup (by omega)
  split
  · exact hdown
  · exact hup (by omega)

namespace Binary64

/-- The number that is meant. -/
def value (x : Binary64) : ℚ :=
  x.signedMantissa * 2 ^ x.exponent

theorem abs_value (x : Binary64) : |x.value| = x.mantissa * 2 ^ x.exponent := by
  have hsigned : |(x.signedMantissa : ℚ)| = x.mantissa := by
    unfold signedMantissa
    split <;> simp
  rw [value, abs_mul, hsigned, abs_of_pos (zpow_pos two_pos _)]

/-- A ratio that is shifted is multiplied by a power of two. -/
theorem shiftRatio_spec (num : Nat) {den : Nat} (hden : 0 < den) (shift : Int) :
    0 < (shiftRatio num den shift).2 ∧
      ((shiftRatio num den shift).1 : ℚ) / (shiftRatio num den shift).2 = num / den * 2 ^ shift := by
  unfold shiftRatio
  split
  · rename_i h
    obtain ⟨k, rfl⟩ := Int.eq_ofNat_of_zero_le h
    refine ⟨hden, ?_⟩
    rw [Int.toNat_natCast, Nat.shiftLeft_eq, Nat.cast_mul, Nat.cast_pow, zpow_natCast]
    push_cast
    ring
  · rename_i h
    obtain ⟨k, hk⟩ : ∃ k : Nat, -shift = k := ⟨(-shift).toNat, by omega⟩
    rw [hk, ← Int.neg_neg shift, hk, Int.toNat_natCast, Nat.shiftLeft_eq]
    refine ⟨Nat.mul_pos hden (Nat.two_pow_pos k), ?_⟩
    rw [zpow_neg, zpow_natCast]
    push_cast
    ring

theorem abs_value_eq_ratio (x : Binary64) : |x.value| = x.ratio.1 / x.ratio.2 := by
  have hratio := (shiftRatio_spec x.mantissa Nat.one_pos x.exponent).2
  rw [abs_value, ratio, hratio, Nat.cast_one, div_one]

/-- What is rounded is a ratio that is shifted. -/
theorem exists_ofRatio (negative : Bool) {num : Nat} (hnum : num ≠ 0) (den : Nat) :
    ∃ e : Int, ∃ mantissa,
      mantissa = roundHalfEven (shiftRatio num den (-e)).1 (shiftRatio num den (-e)).2 ∧
      ofRatio negative num den =
        if mantissa = 2 * leastMantissa then ⟨negative, leastMantissa, e + 1⟩
        else ⟨negative, mantissa, e⟩ := by
  rw [ofRatio, if_neg hnum]
  exact ⟨_, _, rfl, rfl⟩

/-- Rounding does not more than double. -/
theorem abs_value_ofRatio_le (negative : Bool) (num : Nat) {den : Nat} (hden : 0 < den) :
    |(ofRatio negative num den).value| ≤ 2 * (num / den) := by
  by_cases hnum : num = 0
  · rw [ofRatio, if_pos hnum, abs_value]
    simp [hnum]
  · obtain ⟨e, mantissa, hmantissa, heq⟩ := exists_ofRatio negative hnum den
    obtain ⟨hpos, hratio⟩ := shiftRatio_spec num hden (-e)
    have hvalue : |(ofRatio negative num den).value| = mantissa * 2 ^ e := by
      rw [heq]
      split
      · rename_i hcarry
        rw [abs_value, hcarry, zpow_add_one₀ two_ne_zero]
        push_cast
        ring
      · exact abs_value _
    have hrounded : (mantissa : ℚ) ≤ 2 * (num / den * 2 ^ (-e)) := by
      rw [← hratio, ← mul_div_assoc, le_div_iff₀ (Nat.cast_pos.mpr hpos), hmantissa]
      exact_mod_cast roundHalfEven_mul_le _ _
    calc |(ofRatio negative num den).value|
        = mantissa * 2 ^ e := hvalue
      _ ≤ 2 * (num / den * 2 ^ (-e)) * 2 ^ e :=
          mul_le_mul_of_nonneg_right hrounded (zpow_pos two_pos e).le
      _ = 2 * (num / den) := by
          rw [zpow_neg]
          field_simp

theorem abs_value_ofInt_le (n : Int) : |(ofInt n).value| ≤ 2 * |(n : ℚ)| := by
  have h := abs_value_ofRatio_le (n < 0) n.natAbs Nat.one_pos
  rw [Nat.cast_one, div_one, Nat.cast_natAbs, Int.cast_abs] at h
  exact h

theorem abs_value_ofScaled_le (n exponent : Int) :
    |(ofScaled n exponent).value| ≤ 2 * |n * (2 : ℚ) ^ exponent| := by
  obtain ⟨hpos, hratio⟩ := shiftRatio_spec n.natAbs Nat.one_pos exponent
  have h := abs_value_ofRatio_le (n < 0) (shiftRatio n.natAbs 1 exponent).1 hpos
  rw [hratio, Nat.cast_one, div_one, Nat.cast_natAbs, Int.cast_abs] at h
  have hpower : |(2 : ℚ) ^ exponent| = 2 ^ exponent := abs_of_pos (zpow_pos two_pos _)
  rw [abs_mul (n : ℚ), hpower]
  exact h

theorem shiftLeft_mul_zpow (n : Int) {exponent least : Int} (h : least ≤ exponent) :
    ((n <<< (exponent - least).toNat : Int) : ℚ) * 2 ^ least = n * 2 ^ exponent := by
  obtain ⟨k, hk⟩ := Int.eq_ofNat_of_zero_le (Int.sub_nonneg_of_le h)
  have hexponent : exponent = k + least := by omega
  rw [hk, Int.toNat_natCast, Int.shiftLeft_eq, hexponent, zpow_add₀ two_ne_zero, zpow_natCast]
  push_cast
  ring

theorem abs_value_add_le (x y : Binary64) : |(x.add y).value| ≤ 2 * (|x.value| + |y.value|) := by
  have h := abs_value_ofScaled_le
    (x.signedMantissa <<< (x.exponent - min x.exponent y.exponent).toNat +
      y.signedMantissa <<< (y.exponent - min x.exponent y.exponent).toNat) (min x.exponent y.exponent)
  rw [Int.cast_add, add_mul, shiftLeft_mul_zpow _ (Int.min_le_left _ _),
    shiftLeft_mul_zpow _ (Int.min_le_right _ _)] at h
  exact h.trans (mul_le_mul_of_nonneg_left (abs_add_le _ _) two_pos.le)

theorem abs_value_mul_le (x y : Binary64) : |(x.mul y).value| ≤ 2 * (|x.value| * |y.value|) := by
  obtain ⟨hpos, hratio⟩ :=
    shiftRatio_spec (x.mantissa * y.mantissa) Nat.one_pos (x.exponent + y.exponent)
  have h := abs_value_ofRatio_le (x.negative != y.negative)
    (shiftRatio (x.mantissa * y.mantissa) 1 (x.exponent + y.exponent)).1 hpos
  rw [hratio, Nat.cast_one, div_one, Nat.cast_mul, zpow_add₀ two_ne_zero, mul_mul_mul_comm,
    ← abs_value, ← abs_value] at h
  exact h

theorem abs_truncate_le (x : Binary64) : |(x.truncate : ℚ)| ≤ |x.value| := by
  have hfloor : |(x.truncate : ℚ)| = ((x.ratio.1 / x.ratio.2 : Nat) : ℚ) := by
    simp only [truncate]
    split
    · rw [Int.cast_neg, abs_neg, Int.cast_natCast, Nat.abs_cast]
    · rw [Int.cast_natCast, Nat.abs_cast]
  rw [hfloor, abs_value_eq_ratio]
  exact Nat.cast_div_le

end Binary64

end Number

namespace Validator

open Number Binary64

theorem abs_wholeSeconds_le (time : Binary64) : |(wholeSeconds time : ℚ)| ≤ |time.value| + 1 := by
  have htruncate := time.abs_truncate_le
  have hone : |(1 : ℚ)| = 1 := abs_one
  simp only [wholeSeconds]
  split
  · push_cast
    exact (abs_add_le _ _).trans (by linarith)
  split
  · push_cast
    exact (abs_sub _ _).trans (by linarith)
  · linarith

/-- The seconds of a time are not far from its whole seconds. -/
theorem abs_value_seconds_le (modified : Int) :
    |(seconds modified).value| ≤ 4 * |((modified / 1000000000 : Int) : ℚ)| + 16 := by
  have hwhole := abs_value_ofInt_le (modified / 1000000000)
  have hfraction : |(nanosecond.mul (ofInt (modified % 1000000000))).value| ≤ 8 := by
    have hunit : |nanosecond.value| ≤ 2 / 1000000000 := by
      have h := @abs_value_ofRatio_le false 1 1000000000 (by decide)
      exact h.trans (by norm_num)
    have hrest : |(ofInt (modified % 1000000000)).value| ≤ 2000000000 := by
      have h := abs_value_ofInt_le (modified % 1000000000)
      have hnonneg : (0 : ℚ) ≤ (modified % 1000000000 : Int) := by
        exact_mod_cast Int.emod_nonneg _ (by decide)
      have hlt : ((modified % 1000000000 : Int) : ℚ) < 1000000000 := by
        exact_mod_cast Int.emod_lt_of_pos _ (by decide)
      rw [abs_of_nonneg hnonneg] at h
      linarith
    have hproduct := mul_le_mul hunit hrest (abs_nonneg _) (by norm_num)
    have h := abs_value_mul_le nanosecond (ofInt (modified % 1000000000))
    linarith
  have hsum := abs_value_add_le (ofInt (modified / 1000000000))
    (nanosecond.mul (ofInt (modified % 1000000000)))
  rw [seconds]
  linarith

end Validator

end StaticSite
