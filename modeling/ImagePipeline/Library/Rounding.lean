/-
Rounding to a grid of binary numbers with a fixed count of digits. The spacing is
a power of two that follows the magnitude, down to a least one. The grid inherits
from the rounding to integers that it keeps the order.
-/

import Mathlib.Algebra.Order.Field.Power
import Mathlib.Data.Int.Log
import Mathlib.Data.Rat.Floor

namespace ImagePipeline.Library

/-- The rounding keeps the order and leaves integers alone. -/
structure RoundsToIntegers (round : Rat → Int) : Prop where
  monotone : ∀ left right : Rat, left ≤ right → round left ≤ round right
  fixes : ∀ value : Int, round value = value

/-- The exponent of the spacing at a magnitude. -/
def gridExponent (digits : Nat) (least : Int) (magnitude : Rat) : Int :=
  max (Int.log 2 magnitude + 1 - digits) least

def roundToGrid (round : Rat → Int) (digits : Nat) (least : Int) (magnitude : Rat) : Rat :=
  round (magnitude / 2 ^ gridExponent digits least magnitude) *
    2 ^ gridExponent digits least magnitude

variable {round : Rat → Int} {digits : Nat} {least : Int}

theorem spacing_pos (exponent : Int) : (0 : Rat) < 2 ^ exponent := zpow_pos (by norm_num) exponent

theorem spacing_mono {small large : Int} (ordered : small ≤ large) :
    (2 : Rat) ^ small ≤ 2 ^ large := zpow_le_zpow_right₀ (by norm_num) ordered

theorem roundToGrid_nonneg (rounds : RoundsToIntegers round) {magnitude : Rat}
    (nonneg : 0 ≤ magnitude) : 0 ≤ roundToGrid round digits least magnitude := by
  have scaled := div_nonneg nonneg (spacing_pos (gridExponent digits least magnitude)).le
  have rounded := rounds.monotone _ _ scaled
  have zero := rounds.fixes 0
  rw [Int.cast_zero] at zero
  rw [zero] at rounded
  exact mul_nonneg (by exact_mod_cast rounded) (spacing_pos _).le

theorem roundToGrid_le (rounds : RoundsToIntegers round) {magnitude : Rat} :
    roundToGrid round digits least magnitude ≤
      2 ^ (gridExponent digits least magnitude + digits) := by
  have below : magnitude / 2 ^ gridExponent digits least magnitude ≤
      ((2 ^ digits : Int) : Rat) := by
    rw [div_le_iff₀ (spacing_pos _)]
    calc magnitude ≤ 2 ^ (Int.log 2 magnitude + 1) :=
          (Int.lt_zpow_succ_log_self (by norm_num) magnitude).le
      _ ≤ 2 ^ ((digits : Int) + gridExponent digits least magnitude) := by
          apply spacing_mono
          unfold gridExponent
          omega
      _ = ((2 ^ digits : Int) : Rat) * 2 ^ gridExponent digits least magnitude := by
          rw [zpow_add₀ (by norm_num)]
          norm_cast
  have rounded := rounds.monotone _ _ below
  rw [rounds.fixes] at rounded
  calc roundToGrid round digits least magnitude
      ≤ ((2 ^ digits : Int) : Rat) * 2 ^ gridExponent digits least magnitude := by
        apply mul_le_mul_of_nonneg_right _ (spacing_pos _).le
        exact_mod_cast rounded
    _ = 2 ^ (gridExponent digits least magnitude + digits) := by
        rw [zpow_add₀ (by norm_num), mul_comm]
        norm_cast

/-- Above the least exponent a rounded magnitude has all its digits. -/
theorem le_roundToGrid (rounds : RoundsToIntegers round) {magnitude : Rat}
    (positive : 0 < magnitude) (some : 0 < digits)
    (normal : least < gridExponent digits least magnitude) :
    2 ^ (gridExponent digits least magnitude + digits - 1) ≤
      roundToGrid round digits least magnitude := by
  have above : ((2 ^ (digits - 1) : Int) : Rat) ≤
      magnitude / 2 ^ gridExponent digits least magnitude := by
    rw [le_div_iff₀ (spacing_pos _)]
    calc ((2 ^ (digits - 1) : Int) : Rat) * 2 ^ gridExponent digits least magnitude
        = 2 ^ (((digits - 1 : Nat) : Int) + gridExponent digits least magnitude) := by
          rw [zpow_add₀ (by norm_num)]
          norm_cast
      _ ≤ 2 ^ Int.log 2 magnitude := by
          apply spacing_mono
          unfold gridExponent at normal ⊢
          omega
      _ ≤ magnitude := Int.zpow_log_le_self (by norm_num) positive
  have rounded := rounds.monotone _ _ above
  rw [rounds.fixes] at rounded
  calc (2 : Rat) ^ (gridExponent digits least magnitude + digits - 1)
      = ((2 ^ (digits - 1) : Int) : Rat) * 2 ^ gridExponent digits least magnitude := by
        have exponents : gridExponent digits least magnitude + digits - 1 =
            ((digits - 1 : Nat) : Int) + gridExponent digits least magnitude := by omega
        rw [exponents, zpow_add₀ (by norm_num)]
        norm_cast
    _ ≤ roundToGrid round digits least magnitude := by
        apply mul_le_mul_of_nonneg_right _ (spacing_pos _).le
        exact_mod_cast rounded

/-- Rounding to the grid keeps the order. -/
theorem roundToGrid_mono (rounds : RoundsToIntegers round) (some : 0 < digits) {left right : Rat}
    (positive : 0 < left) (ordered : left ≤ right) :
    roundToGrid round digits least left ≤ roundToGrid round digits least right := by
  have exponents : gridExponent digits least left ≤ gridExponent digits least right := by
    have logs := Int.log_mono_right (b := 2) positive ordered
    unfold gridExponent
    omega
  by_cases same : gridExponent digits least left = gridExponent digits least right
  · unfold roundToGrid
    rw [same]
    have scaled := div_le_div_of_nonneg_right ordered
      (spacing_pos (gridExponent digits least right)).le
    apply mul_le_mul_of_nonneg_right _ (spacing_pos _).le
    exact_mod_cast rounds.monotone _ _ scaled
  · have normal : least < gridExponent digits least right := by
      have bound : least ≤ gridExponent digits least left := le_max_right _ _
      omega
    calc roundToGrid round digits least left
        ≤ 2 ^ (gridExponent digits least left + digits) := roundToGrid_le rounds
      _ ≤ 2 ^ (gridExponent digits least right + digits - 1) := by
          apply spacing_mono
          omega
      _ ≤ roundToGrid round digits least right :=
          le_roundToGrid rounds (positive.trans_le ordered) some normal

theorem roundToGrid_fixes (rounds : RoundsToIntegers round) {magnitude : Rat} {multiple : Int}
    (onGrid : magnitude = multiple * 2 ^ gridExponent digits least magnitude) :
    roundToGrid round digits least magnitude = magnitude := by
  have scaled : magnitude / 2 ^ gridExponent digits least magnitude = multiple :=
    (div_eq_iff (spacing_pos _).ne').mpr onGrid
  rw [roundToGrid, scaled, rounds.fixes, ← onGrid]

/-- Whole numbers with no more digits than the grid are on it, and so is the
first one with a digit more. -/
theorem roundToGrid_natCast (rounds : RoundsToIntegers round) (some : 0 < digits)
    (nonpositive : least ≤ 0) {value : Nat} (bounded : value ≤ 2 ^ digits) :
    roundToGrid round digits least (value : Rat) = value := by
  by_cases top : value = 2 ^ digits
  · have log : Int.log 2 (value : Rat) = digits := by
      rw [Int.log_natCast, top, Nat.log_pow (by decide)]
    have exponent : gridExponent digits least (value : Rat) = 1 := by
      unfold gridExponent
      omega
    have half : value = 2 ^ (digits - 1) * 2 := by
      rw [top, ← Nat.pow_succ, Nat.succ_eq_add_one, Nat.sub_add_cancel some]
    have onGrid : (value : Rat) =
        ((2 ^ (digits - 1) : Nat) : Int) * 2 ^ gridExponent digits least (value : Rat) := by
      rw [exponent, zpow_one]
      exact_mod_cast half
    exact roundToGrid_fixes rounds onGrid
  · have log : Int.log 2 (value : Rat) < digits := by
      rw [Int.log_natCast]
      exact_mod_cast Nat.log_lt_of_lt_pow' (by omega) (by omega)
    have exponent : gridExponent digits least (value : Rat) ≤ 0 := by
      unfold gridExponent
      omega
    obtain ⟨shift, shifted⟩ := Int.exists_eq_neg_ofNat exponent
    have onGrid : (value : Rat) =
        ((value * 2 ^ shift : Nat) : Int) * 2 ^ gridExponent digits least (value : Rat) := by
      rw [shifted, zpow_neg, zpow_natCast]
      push_cast
      rw [mul_assoc, mul_inv_cancel₀ (by positivity), mul_one]
    exact roundToGrid_fixes rounds onGrid

end ImagePipeline.Library
