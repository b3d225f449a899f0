/-
  File:      AlphaForge/Lib/Decimal.lean
  Subject:   Rounding of exact numbers to a number of decimal digits, half to even. No program
             fact.

  * `roundTo_error` -- the rounding error is half a unit of the last digit.
  * `roundTo_mono` -- rounding keeps the order.
  * **`roundTo_difference`** -- a clipped difference rounded against the clipped difference of the
    rounded: the worst case is one unit of the last digit, not the three halves the three errors
    add up to.
-/
import Mathlib.Data.Rat.Floor
import Mathlib.Algebra.Order.Field.Basic
import Mathlib.Algebra.Order.Group.MinMax
import Mathlib.Tactic.Linarith
import Mathlib.Tactic.Positivity
import Mathlib.Tactic.FieldSimp

namespace AlphaForge.Lib

/-- The nearest integer, the even one of two. -/
def roundHalfEven (x : ℚ) : ℤ :=
  if x - ⌊x⌋ < 1 / 2 then ⌊x⌋
  else if 1 / 2 < x - ⌊x⌋ then ⌊x⌋ + 1
  else if ⌊x⌋ % 2 = 0 then ⌊x⌋ else ⌊x⌋ + 1

/-- `round(x, digits)` in decimal arithmetic. -/
def roundTo (digits : ℕ) (x : ℚ) : ℚ := roundHalfEven (x * 10 ^ digits) / 10 ^ digits

theorem roundHalfEven_error (x : ℚ) : |(roundHalfEven x : ℚ) - x| ≤ 1 / 2 := by
  have hlow := Int.floor_le x
  have hhigh := Int.lt_floor_add_one x
  unfold roundHalfEven
  rw [abs_le]
  split
  · constructor <;> linarith
  split
  · push_cast
    constructor <;> linarith
  split
  · constructor <;> linarith
  · push_cast
    constructor <;> linarith

theorem roundTo_error (digits : ℕ) (x : ℚ) : |roundTo digits x - x| ≤ 1 / 2 / 10 ^ digits := by
  have hpos : (0 : ℚ) < 10 ^ digits := by positivity
  have h := roundHalfEven_error (x * 10 ^ digits)
  have heq : roundTo digits x - x = (roundHalfEven (x * 10 ^ digits) - x * 10 ^ digits) / 10 ^
    digits := by
    unfold roundTo
    field_simp
  rw [heq, abs_div, abs_of_pos hpos]
  exact div_le_div_of_nonneg_right h hpos.le

/-- On integers the three rounding errors leave at most one unit. -/
theorem roundHalfEven_difference (x y : ℚ) :
    |roundHalfEven (max (x - y) 0) - max 0 (roundHalfEven x - roundHalfEven y)| ≤ 1 := by
  have hx := roundHalfEven_error x
  have hy := roundHalfEven_error y
  have hd := roundHalfEven_error (max (x - y) 0)
  generalize roundHalfEven x = a at hx
  generalize roundHalfEven y = b at hy
  generalize roundHalfEven (max (x - y) 0) = c at hd
  have hclip : |max (x - y) 0 - max ((a : ℚ) - b) 0| ≤ 1 := by
    refine (abs_max_sub_max_le_abs _ _ 0).trans ?_
    rw [abs_le] at hx hy ⊢
    constructor <;> linarith [hx.1, hx.2, hy.1, hy.2]
  have htotal : |(c : ℚ) - max ((a : ℚ) - b) 0| < 2 := by
    rw [abs_le] at hclip hd
    rw [abs_lt]
    constructor <;> linarith [hclip.1, hclip.2, hd.1, hd.2]
  have hint : |c - max (a - b) 0| < 2 := by exact_mod_cast htotal
  rw [max_comm 0]
  omega

/-- **The worst case is one unit of the last digit.** -/
theorem roundTo_difference (digits : ℕ) (x y : ℚ) :
    |roundTo digits (max (x - y) 0) - max 0 (roundTo digits x - roundTo digits y)| ≤
      1 / 10 ^ digits := by
  have hpos : (0 : ℚ) < 10 ^ digits := by positivity
  have hscale : max (x - y) 0 * 10 ^ digits = max (x * 10 ^ digits - y * 10 ^ digits) 0 := by
    rw [max_mul_of_nonneg _ _ hpos.le, sub_mul, zero_mul]
  have h := roundHalfEven_difference (x * 10 ^ digits) (y * 10 ^ digits)
  unfold roundTo
  rw [hscale]
  generalize roundHalfEven (max (x * 10 ^ digits - y * 10 ^ digits) 0) = c at h ⊢
  generalize roundHalfEven (x * 10 ^ digits) = a at h ⊢
  generalize roundHalfEven (y * 10 ^ digits) = b at h ⊢
  have heq : (c : ℚ) / 10 ^ digits - max 0 ((a : ℚ) / 10 ^ digits - b / 10 ^ digits) =
      ((c - max 0 (a - b) : ℤ) : ℚ) / 10 ^ digits := by
    have hclip : max 0 (((a : ℚ) - b) / 10 ^ digits) = max 0 ((a : ℚ) - b) / 10 ^ digits := by
      rw [← max_div_div_right hpos.le, zero_div]
    push_cast
    rw [← sub_div, hclip, ← sub_div]
  rw [heq, abs_div, abs_of_pos hpos]
  refine div_le_div_of_nonneg_right ?_ hpos.le
  exact_mod_cast h

/-- Rounding keeps the order: between two integers it keeps a tie's side, across one the smaller
    number is rounded up to it at most. -/
theorem roundHalfEven_mono {x y : ℚ} (h : x ≤ y) : roundHalfEven x ≤ roundHalfEven y := by
  have hfloor : ⌊x⌋ ≤ ⌊y⌋ := Int.floor_le_floor h
  rcases hfloor.eq_or_lt with heq | hlt
  · unfold roundHalfEven
    rw [← heq]
    split_ifs <;> first | omega | linarith
  · have hup : roundHalfEven x ≤ ⌊x⌋ + 1 := by
      unfold roundHalfEven
      split_ifs <;> omega
    have hdown : ⌊y⌋ ≤ roundHalfEven y := by
      unfold roundHalfEven
      split_ifs <;> omega
    omega

theorem roundTo_mono (digits : ℕ) {x y : ℚ} (h : x ≤ y) : roundTo digits x ≤ roundTo digits y := by
  unfold roundTo
  have hpos : (0 : ℚ) < 10 ^ digits := by positivity
  have hscaled := roundHalfEven_mono (mul_le_mul_of_nonneg_right h hpos.le)
  exact div_le_div_of_nonneg_right (Int.cast_le.mpr hscaled) hpos.le

theorem roundTo_zero (digits : ℕ) : roundTo digits 0 = 0 := by
  unfold roundTo roundHalfEven
  simp

theorem roundTo_nonneg (digits : ℕ) {x : ℚ} (h : 0 ≤ x) : 0 ≤ roundTo digits x := by
  have hle := roundTo_mono digits h
  rwa [roundTo_zero] at hle

end AlphaForge.Lib
