import Honeypot.Proofs.Number.Clamp
import Mathlib.Algebra.Order.Ring.Unbundled.Rat
import Mathlib.Data.Int.Order.Basic
import Mathlib.Data.Prod.Lex

namespace Honeypot

namespace Double

open Float.Model (UnpackedFloat)

/-- Where a number stands among all others: by sign and kind, then by exponent, then by digits. -/
def rank : UnpackedFloat → ℤ ×ₗ ℤ ×ₗ ℤ
  | .infinity .negative => toLex (-2, toLex (0, 0))
  | .finite .negative digits exponent _ => toLex (-1, toLex (-exponent, -digits))
  | .zero _ => toLex (0, toLex (0, 0))
  | .finite .positive digits exponent _ => toLex (1, toLex (exponent, digits))
  | .infinity .positive => toLex (2, toLex (0, 0))
  | .notANumber => toLex (0, toLex (0, 0))

theorem isLE_then_compare_iff {e e' : ℤ} {m m' : ℕ} :
    ((compare e e').then (compare m m')).isLE = true ↔ e < e' ∨ e = e' ∧ m ≤ m' := by
  rcases lt_trichotomy e e' with h | rfl | h
  · simp [compare_lt_iff_lt.mpr h, h]
  · simp [Nat.isLE_compare]
  · simp [compare_gt_iff_gt.mpr h, h.not_gt, h.ne']

theorem isGE_then_compare_iff {e e' : ℤ} {m m' : ℕ} :
    ((compare e e').then (compare m m')).isGE = true ↔ e' < e ∨ e = e' ∧ m' ≤ m := by
  rcases lt_trichotomy e e' with h | rfl | h
  · simp [compare_lt_iff_lt.mpr h, h.not_gt, h.ne]
  · simp [Nat.isGE_compare]
  · simp [compare_gt_iff_gt.mpr h, h]

theorem isLE_compare_iff_rank {a b : UnpackedFloat} (ha : a.isNaN = false)
    (hb : b.isNaN = false) :
    (a.compare b).any (·.isLE) = true ↔ rank a ≤ rank b := by
  -- Two numbers of one sign go by exponent and digits, all other pairs go by their kinds alone.
  rcases a with ⟨_ | _⟩ | _ | _ | ⟨_ | _, m, e, _⟩ <;>
    rcases b with ⟨_ | _⟩ | _ | _ | ⟨_ | _, m', e', _⟩ <;>
      first
        | cases ha; done
        | cases hb; done
        | decide
        | change Option.any Ordering.isLE (some _) = true ↔ toLex (_, toLex (_, _)) ≤ toLex (_, _)
          simp [Prod.Lex.toLex_le_toLex, isLE_then_compare_iff, isGE_then_compare_iff]

theorem le_trans {x y z : Float} (hxy : x ≤ y) (hyz : y ≤ z) : x ≤ z := by
  obtain ⟨hx, hy⟩ := isNaN_of_le hxy
  have hz := (isNaN_of_le hyz).2
  rw [le_iff_compare, isLE_compare_iff_rank hx hy] at hxy
  rw [le_iff_compare, isLE_compare_iff_rank hy hz] at hyz
  rw [le_iff_compare, isLE_compare_iff_rank hx hz]
  exact hxy.trans hyz

end Double

/-- Numbers whose comparisons can be chained. -/
class Scalar.TransitiveLe (K : Type) [Scalar K] : Prop where
  le_trans : ∀ {a b c : K}, Scalar.le a b = true → Scalar.le b c = true → Scalar.le a c = true

instance : Scalar.TransitiveLe Float where
  le_trans hab hbc :=
    decide_eq_true (Double.le_trans (of_decide_eq_true hab) (of_decide_eq_true hbc))

instance : Scalar.TransitiveLe ℚ where
  le_trans hab hbc := decide_eq_true ((of_decide_eq_true hab).trans (of_decide_eq_true hbc))

end Honeypot
