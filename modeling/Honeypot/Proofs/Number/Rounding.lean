import Honeypot.Number.Shortest
import Mathlib.Algebra.Group.Nat.Defs

namespace Honeypot

namespace Double

theorem units_of_subnormal {fraction : Nat} (h : fraction < 2 ^ 52) :
    units fraction = fraction := by
  simp only [units, Nat.pow_eq]
  rw [Nat.div_eq_of_lt h, if_pos rfl, Nat.mod_eq_of_lt h]

theorem units_of_normal (exponent : Nat) {fraction : Nat} (h : fraction < 2 ^ 52) :
    units ((exponent + 1) * 2 ^ 52 + fraction) = (2 ^ 52 + fraction) * 2 ^ exponent := by
  have hdiv : ((exponent + 1) * 2 ^ 52 + fraction) / 2 ^ 52 = exponent + 1 := by omega
  have hmod : ((exponent + 1) * 2 ^ 52 + fraction) % 2 ^ 52 = fraction := by omega
  simp only [units, Nat.pow_eq]
  rw [hdiv, hmod, if_neg (by omega), Nat.add_sub_cancel]

/-- A pattern is a fraction below the least normal number, or it has an exponent and a
fraction. -/
theorem pattern_cases (pattern : Nat) :
    pattern < 2 ^ 52 ∨ ∃ exponent fraction, fraction < 2 ^ 52 ∧
      pattern = (exponent + 1) * 2 ^ 52 + fraction := by
  by_cases h : pattern < 2 ^ 52
  · exact .inl h
  · exact .inr ⟨pattern / 2 ^ 52 - 1, pattern % 2 ^ 52, by omega, by omega⟩

theorem units_lt_units_succ (pattern : Nat) : units pattern < units (pattern + 1) := by
  rcases pattern_cases pattern with h | ⟨exponent, fraction, hfraction, rfl⟩
  · rw [units_of_subnormal h]
    by_cases hnext : pattern + 1 < 2 ^ 52
    · rw [units_of_subnormal hnext]
      omega
    · have hlast : pattern + 1 = (0 + 1) * 2 ^ 52 + 0 := by omega
      rw [hlast, units_of_normal 0 (by omega)]
      omega
  · rw [units_of_normal exponent hfraction]
    by_cases hnext : fraction + 1 < 2 ^ 52
    · rw [Nat.add_assoc, units_of_normal exponent hnext]
      exact Nat.mul_lt_mul_of_pos_right (by omega) (Nat.two_pow_pos exponent)
    · have hlast : (exponent + 1) * 2 ^ 52 + fraction + 1 = (exponent + 1 + 1) * 2 ^ 52 + 0 := by
        omega
      rw [hlast, units_of_normal (exponent + 1) (by omega), Nat.pow_succ 2 exponent,
        Nat.mul_comm (2 ^ exponent), ← Nat.mul_assoc]
      exact Nat.mul_lt_mul_of_pos_right (by omega) (Nat.two_pow_pos exponent)

theorem floorPattern_units (pattern : Nat) : floorPattern (units pattern) = pattern := by
  rcases pattern_cases pattern with h | ⟨exponent, fraction, hfraction, rfl⟩
  · have hlog : pattern.log2 - 52 = 0 := by
      rcases Nat.eq_zero_or_pos pattern with rfl | hpos
      · rfl
      · have := (Nat.log2_lt (by omega)).mpr h
        omega
    simp only [units_of_subnormal h, floorPattern, hlog, Nat.pow_eq]
    omega
  · have hpow : 0 < 2 ^ exponent := Nat.two_pow_pos exponent
    have hlog : ((2 ^ 52 + fraction) * 2 ^ exponent).log2 = 52 + exponent := by
      refine (Nat.log2_eq_iff (Nat.mul_ne_zero (by omega) (Nat.ne_of_gt hpow))).mpr ⟨?_, ?_⟩
      · rw [Nat.pow_add]
        exact Nat.mul_le_mul_right _ (by omega)
      · rw [Nat.add_right_comm, Nat.pow_add]
        exact Nat.mul_lt_mul_of_pos_right (by omega) hpow
    simp only [units_of_normal exponent hfraction, floorPattern, hlog, Nat.add_sub_cancel_left,
      Nat.pow_eq, Nat.mul_div_cancel _ hpow]
    omega

theorem infinity_le_floorPattern {count : Nat} (h : 2098 ≤ count.log2) :
    infinity ≤ floorPattern count := by
  have hpos : count ≠ 0 := by
    rintro rfl
    exact absurd h (by decide)
  have hquotient : 2 ^ 52 ≤ count / 2 ^ (count.log2 - 52) := by
    rw [Nat.le_div_iff_mul_le (Nat.two_pow_pos _), ← Nat.pow_add,
      Nat.add_sub_cancel' (by omega : 52 ≤ count.log2)]
    exact Nat.log2_self_le hpos
  have hshift : 2046 * 2 ^ 52 ≤ (count.log2 - 52) * 2 ^ 52 := Nat.mul_le_mul_right _ (by omega)
  have hinf : infinity = 2046 * 2 ^ 52 + 2 ^ 52 := rfl
  simp only [floorPattern, Nat.pow_eq]
  omega

theorem nearest_mul_right (n d : Nat) {k : Nat} (hk : 0 < k) :
    nearest (n * k) (d * k) = nearest n d := by
  have hscaled : n * k * unitsPerOne = n * unitsPerOne * k := Nat.mul_right_comm ..
  have hdouble : 2 * (n * unitsPerOne * k) = 2 * (n * unitsPerOne) * k := (Nat.mul_assoc ..).symm
  have hcompare (a b : Nat) : compare (a * k) (b * k) = compare a b := by
    simp only [Nat.compare_eq_ite_lt, Nat.mul_lt_mul_right hk]
  simp only [nearest, hscaled, Nat.mul_div_mul_right _ _ hk, hdouble, ← Nat.mul_assoc, hcompare]

theorem nearest_congr {n d n' d' : Nat} (hd : 0 < d) (hd' : 0 < d') (h : n * d' = n' * d) :
    nearest n d = nearest n' d' := by
  rw [← nearest_mul_right n d hd', ← nearest_mul_right n' d' hd, h, Nat.mul_comm d d']

/-- A fraction that is the value of a double is rounded to this double. -/
theorem nearest_of_units {n d pattern : Nat} (hd : 0 < d) (hfinite : pattern < infinity)
    (h : n * unitsPerOne = units pattern * d) : nearest n d = pattern := by
  have hdiv : n * unitsPerOne / d = units pattern := by
    rw [h, Nat.mul_div_cancel _ hd]
  have hbelow : 2 * (n * unitsPerOne) < (units pattern + units (pattern + 1)) * d := by
    rw [h, ← Nat.mul_assoc]
    have := units_lt_units_succ pattern
    exact Nat.mul_lt_mul_of_pos_right (by omega) hd
  simp only [nearest, hdiv, floorPattern_units, if_neg (Nat.not_le.mpr hfinite),
    Nat.compare_eq_lt.mpr hbelow]

theorem nearest_le_infinity (n d : Nat) : nearest n d ≤ infinity := by
  simp only [nearest]
  split
  · exact Nat.le_refl _
  · split <;> omega

theorem nearest_of_large {n d bound : Nat} (hd : 0 < d)
    (hbound : 2098 ≤ (bound * unitsPerOne).log2) (h : bound * d ≤ n) :
    nearest n d = infinity := by
  have hpos : bound * unitsPerOne ≠ 0 := by
    intro hzero
    rw [hzero] at hbound
    exact absurd hbound (by decide)
  have hcount : bound * unitsPerOne ≤ n * unitsPerOne / d := by
    rw [Nat.le_div_iff_mul_le hd, Nat.mul_right_comm]
    exact Nat.mul_le_mul_right _ h
  have hlog : (bound * unitsPerOne).log2 ≤ (n * unitsPerOne / d).log2 :=
    (Nat.le_log2 (by omega)).mpr (Nat.le_trans (Nat.log2_self_le hpos) hcount)
  simp only [nearest, if_pos (infinity_le_floorPattern (Nat.le_trans hbound hlog))]

theorem nearest_of_small {n d : Nat} (h : 2 * (n * unitsPerOne) < d) : nearest n d = 0 := by
  have hdiv : n * unitsPerOne / d = 0 := Nat.div_eq_of_lt (by omega)
  have hunits : units 0 + units (0 + 1) = 1 := rfl
  have hzero : floorPattern 0 = 0 := rfl
  have hinf : ¬infinity ≤ 0 := by decide
  simp only [nearest, hdiv, hzero, hunits, Nat.one_mul, Nat.compare_eq_lt.mpr h, if_neg hinf]

end Double

namespace Decimal

def numerator (d : Decimal) : Nat := d.coefficient * 10 ^ d.exponent.toNat

def denominator (d : Decimal) : Nat := 10 ^ (-d.exponent).toNat

theorem denominator_pos (d : Decimal) : 0 < d.denominator := Nat.pow_pos (by decide)

theorem denominator_of_nonneg {d : Decimal} (h : 0 ≤ d.exponent) : d.denominator = 1 := by
  rw [denominator, show (-d.exponent).toNat = 0 by omega, Nat.pow_zero]

theorem numerator_of_nonpos {d : Decimal} (h : d.exponent ≤ 0) : d.numerator = d.coefficient := by
  rw [numerator, show d.exponent.toNat = 0 by omega, Nat.pow_zero, Nat.mul_one]

theorem nearest_of_large_exponent {d : Decimal} (hcoefficient : d.coefficient ≠ 0)
    (h : 400 < d.exponent) : Double.nearest d.numerator d.denominator = Double.infinity := by
  obtain ⟨k, hk⟩ : ∃ k, k = 400 := ⟨_, rfl⟩
  have hbound : 2098 ≤ (10 ^ k * Double.unitsPerOne).log2 := by
    rw [hk]
    decide +kernel
  apply Double.nearest_of_large d.denominator_pos hbound
  calc 10 ^ k * d.denominator = 10 ^ k := by
        rw [denominator_of_nonneg (by omega), Nat.mul_one]
    _ ≤ 10 ^ d.exponent.toNat := Nat.pow_le_pow_right (by decide) (by omega)
    _ ≤ d.numerator := Nat.le_mul_of_pos_left _ (Nat.pos_of_ne_zero hcoefficient)

theorem nearest_of_small_exponent {d : Decimal} (h : d.exponent + d.coefficient.log2 < -400) :
    Double.nearest d.numerator d.denominator = 0 := by
  obtain ⟨k, hk⟩ : ∃ k, k = 400 := ⟨_, rfl⟩
  have hunits : 2 * Double.unitsPerOne ≤ 10 ^ k := by
    rw [hk]
    decide +kernel
  apply Double.nearest_of_small
  calc 2 * (d.numerator * Double.unitsPerOne) = d.coefficient * (2 * Double.unitsPerOne) := by
        rw [numerator_of_nonpos (by omega), Nat.mul_left_comm]
    _ ≤ d.coefficient * 10 ^ k := Nat.mul_le_mul_left _ hunits
    _ < 2 ^ (d.coefficient.log2 + 1) * 10 ^ k :=
        Nat.mul_lt_mul_of_pos_right Nat.lt_log2_self (Nat.pow_pos (by decide))
    _ ≤ 10 ^ (d.coefficient.log2 + 1) * 10 ^ k :=
        Nat.mul_le_mul_right _ (Nat.pow_le_pow_left (by decide) _)
    _ = 10 ^ (d.coefficient.log2 + 1 + k) := (Nat.pow_add ..).symm
    _ ≤ d.denominator := Nat.pow_le_pow_right (by decide) (by omega)

/-- The shortcuts for exponents far out of range agree with the rounding of the fraction. -/
theorem pattern_eq_nearest (d : Decimal) :
    d.pattern = Double.nearest d.numerator d.denominator := by
  rw [pattern]
  split
  · rename_i hzero
    refine (Double.nearest_of_small ?_).symm
    rw [numerator, hzero, Nat.zero_mul, Nat.zero_mul]
    exact d.denominator_pos
  · rename_i hcoefficient
    split
    · rename_i hlarge
      exact (nearest_of_large_exponent hcoefficient hlarge).symm
    · split
      · rename_i hsmall
        exact (nearest_of_small_exponent hsmall).symm
      · split
        · rename_i hexp
          rw [denominator_of_nonneg hexp]
          rfl
        · rename_i hexp
          rw [numerator_of_nonpos (by omega)]
          rfl

/-- The same number with so many more zeros at the end of its coefficient. -/
def padded (d : Decimal) (zeros : Nat) : Decimal :=
  ⟨d.coefficient * 10 ^ zeros, d.exponent - zeros⟩

theorem pattern_padded (d : Decimal) (zeros : Nat) : (d.padded zeros).pattern = d.pattern := by
  have hexp : zeros + (d.exponent - zeros).toNat + (-d.exponent).toNat =
      d.exponent.toNat + (-(d.exponent - zeros)).toNat := by omega
  rw [pattern_eq_nearest, pattern_eq_nearest]
  apply Double.nearest_congr (denominator_pos _) d.denominator_pos
  simp only [numerator, denominator, padded, Nat.mul_assoc, ← Nat.pow_add]
  rw [hexp]

theorem pattern_le_infinity (d : Decimal) : d.pattern ≤ Double.infinity := by
  rw [pattern_eq_nearest]
  exact Double.nearest_le_infinity _ _

end Decimal

theorem five_pow_mul_two_pow (k : Nat) : Nat.pow 5 k * Nat.pow 2 k = 10 ^ k :=
  (Nat.mul_pow 5 2 k).symm

/-- The value of a pattern, written out in full, is read as this pattern. -/
theorem Double.pattern_exactDecimal {pattern : Nat} (h : pattern < infinity) :
    (exactDecimal pattern).pattern = pattern := by
  have hexp : (exactDecimal pattern).exponent = -(unitPlaces : Int) := rfl
  have hcoefficient : (exactDecimal pattern).coefficient = units pattern * Nat.pow 5 unitPlaces :=
    rfl
  have hone : unitsPerOne = Nat.pow 2 unitPlaces := by
    unfold unitsPerOne
    rfl
  have hdenominator : (exactDecimal pattern).denominator = 10 ^ unitPlaces := by
    rw [Decimal.denominator, hexp, Int.neg_neg, Int.toNat_natCast]
  rw [Decimal.pattern_eq_nearest, Decimal.numerator_of_nonpos (by omega)]
  apply nearest_of_units (Decimal.denominator_pos _) h
  rw [hdenominator, hcoefficient, hone, Nat.mul_assoc, five_pow_mul_two_pow]

end Honeypot
