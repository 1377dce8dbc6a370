import Honeypot.Scalar
import Mathlib.Algebra.BigOperators.Group.List.Basic
import Mathlib.Algebra.Order.Field.Basic
import Mathlib.Algebra.Order.Ring.Rat
import Mathlib.Data.Nat.Cast.Order.Ring

namespace Honeypot.Scalar

theorem sum_eq_sum (terms : List ℚ) : sum terms = terms.sum := by
  rw [List.sum_eq_foldl]
  rfl

theorem foldl_add_eq_sum (terms : List ℚ) : terms.foldl (· + ·) zero = terms.sum := by
  rw [List.sum_eq_foldl]
  rfl

theorem mean_eq_div (terms : List ℚ) : mean terms = terms.sum / terms.length := by
  rw [mean, sum_eq_sum]
  rfl

theorem percent_nonneg (n : ℕ) : 0 ≤ (percent n : ℚ) :=
  div_nonneg (Nat.cast_nonneg n) (Nat.cast_nonneg 100)

theorem max_eq_max (a b : ℚ) : Scalar.max a b = Max.max a b := by
  have hlt : lt a b = decide (a < b) := rfl
  show (if lt a b = true then b else a) = Max.max a b
  rw [hlt]
  by_cases h : a < b
  · rw [if_pos (decide_eq_true h), max_eq_right h.le]
  · rw [if_neg (by simpa using h), max_eq_left (not_lt.mp h)]

theorem clamp_eq_max_min (a : ℚ) : clamp a = Max.max 0 (min a 1) := by
  have hzero : lt a zero = decide (a < 0) := rfl
  have hone : lt one a = decide (1 < a) := rfl
  show (if lt a zero = true then zero else if lt one a = true then one else a) = _
  rw [hzero, hone]
  simp only [decide_eq_true_eq]
  split
  · rename_i h
    rw [min_eq_left (h.le.trans zero_le_one), max_eq_left h.le]
    rfl
  · rename_i h
    split
    · rename_i h'
      rw [min_eq_right h'.le, max_eq_right zero_le_one]
      rfl
    · rename_i h'
      rw [min_eq_left (not_lt.mp h'), max_eq_right (not_lt.mp h)]

theorem capAtOne_eq_min (a : ℚ) : capAtOne a = min a 1 := by
  have hlt : lt one a = decide (1 < a) := rfl
  show (if lt one a = true then one else a) = min a 1
  rw [hlt]
  by_cases h : 1 < a
  · rw [if_pos (decide_eq_true h), min_eq_right h.le]
    rfl
  · rw [if_neg (by simpa using h), min_eq_left (not_lt.mp h)]

theorem min_one_nonneg_iff {a : ℚ} : 0 ≤ min a 1 ↔ 0 ≤ a :=
  le_min_iff.trans (and_iff_left zero_le_one)

end Honeypot.Scalar
