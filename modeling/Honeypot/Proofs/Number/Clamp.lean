import Honeypot.Scalar

namespace Honeypot

namespace Double

open Float.Model (UnpackedFloat)

theorem lt_iff_compare {x y : Float} :
    x < y ↔ x.toModel.unpack.compare y.toModel.unpack = some .lt := by
  show decide (x.toModel < y.toModel) = true ↔ _
  rw [decide_eq_true_iff]
  exact beq_iff_eq

theorem le_iff_compare {x y : Float} :
    x ≤ y ↔ (x.toModel.unpack.compare y.toModel.unpack).any (·.isLE) = true := by
  show decide (x.toModel ≤ y.toModel) = true ↔ _
  rw [decide_eq_true_iff]
  exact Iff.rfl

theorem compare_swap (a b : UnpackedFloat) : b.compare a = (a.compare b).map Ordering.swap := by
  have hthen (e e' : Int) (m m' : Nat) :
      (compare e' e).then (compare m' m) = ((compare e e').then (compare m m')).swap := by
    rw [Ordering.swap_then, ← Std.OrientedOrd.eq_swap, ← Std.OrientedOrd.eq_swap]
  rcases a with ⟨_ | _⟩ | _ | _ | ⟨_ | _, m, e, _⟩ <;>
    rcases b with ⟨_ | _⟩ | _ | _ | ⟨_ | _, m', e', _⟩ <;>
      first
        | rfl
        | exact congrArg some (hthen e e' m m')
        | exact congrArg (some ·.swap) (hthen e e' m m')

theorem exists_compare {a b : UnpackedFloat} (ha : a.isNaN = false) (hb : b.isNaN = false) :
    ∃ o, a.compare b = some o := by
  rcases a with ⟨_ | _⟩ | _ | _ | ⟨_ | _, m, e, _⟩ <;>
    rcases b with ⟨_ | _⟩ | _ | _ | ⟨_ | _, m', e', _⟩ <;>
      first | exact ⟨_, rfl⟩ | exact Bool.noConfusion ha | exact Bool.noConfusion hb

theorem isNaN_of_compare {a b : UnpackedFloat} {o : Ordering} (h : a.compare b = some o) :
    a.isNaN = false ∧ b.isNaN = false := by
  rcases a with ⟨_ | _⟩ | _ | _ | ⟨_ | _, m, e, _⟩ <;>
    rcases b with ⟨_ | _⟩ | _ | _ | ⟨_ | _, m', e', _⟩ <;> first | exact ⟨rfl, rfl⟩ | cases h

theorem le_of_not_lt {x y : Float} (hx : x.isNaN = false) (hy : y.isNaN = false) (h : ¬x < y) :
    y ≤ x := by
  rw [lt_iff_compare] at h
  rw [le_iff_compare, compare_swap]
  obtain ⟨o, ho⟩ := exists_compare (a := x.toModel.unpack) (b := y.toModel.unpack) hx hy
  rw [ho] at h ⊢
  cases o with
  | lt => exact absurd rfl h
  | eq | gt => rfl

theorem not_lt_of_le {x y : Float} (h : y ≤ x) : ¬x < y := by
  rw [le_iff_compare, compare_swap] at h
  intro hlt
  rw [lt_iff_compare.mp hlt] at h
  cases h

theorem isNaN_of_lt {x y : Float} (h : x < y) : x.isNaN = false ∧ y.isNaN = false :=
  isNaN_of_compare (lt_iff_compare.mp h)

theorem isNaN_of_le {x y : Float} (h : x ≤ y) : x.isNaN = false ∧ y.isNaN = false := by
  obtain ⟨o, ho, -⟩ := (Option.any_eq_true _ _).mp (le_iff_compare.mp h)
  exact isNaN_of_compare ho

theorem isFinite_of_le_of_le {low high x : Float} (hlow : low.isFinite = true)
    (hhigh : high.isFinite = true) (hle : low ≤ x) (hle' : x ≤ high) : x.isFinite = true := by
  have hbetween {a b c : UnpackedFloat} (ha : a.isFinite = true) (hc : c.isFinite = true)
      (hab : (a.compare b).any (·.isLE) = true) (hbc : (b.compare c).any (·.isLE) = true) :
      b.isFinite = true := by
    rcases b with ⟨_ | _⟩ | _ | _ | _
    · rcases a with ⟨_ | _⟩ | _ | _ | ⟨_ | _, _, _, _⟩ <;> first | cases ha; done | cases hab
    · rcases c with ⟨_ | _⟩ | _ | _ | ⟨_ | _, _, _, _⟩ <;> first | cases hc; done | cases hbc
    · rcases c with ⟨_ | _⟩ | _ | _ | ⟨_ | _, _, _, _⟩ <;> cases hbc
    · rfl
    · rfl
  exact hbetween hlow hhigh (le_iff_compare.mp hle) (le_iff_compare.mp hle')

theorem zero_unpack : (0 : Float).toModel.unpack = .zero .positive := rfl

theorem one_unpack :
    (1 : Float).toModel.unpack = .finite .positive (2 ^ 52) (-52) (Nat.two_pow_pos 52) := rfl

theorem not_lt_zero_of_one_lt {x : Float} (h : 1 < x) : ¬x < 0 := by
  rw [lt_iff_compare, one_unpack] at h
  rw [lt_iff_compare, zero_unpack]
  cases hx : x.toModel.unpack with
  | zero | notANumber =>
      rw [hx] at h
      cases h
  | infinity s | finite s =>
      rw [hx] at h
      cases s with
      | positive => nofun
      | negative => cases h

end Double

namespace Scalar

variable {x : Float}

theorem clamp_of_isNaN (h : x.isNaN = true) : clamp x = 0 := by
  have hnan : isNaN x = true := h
  rw [clamp, if_pos hnan]
  rfl

theorem clamp_of_not_isNaN (h : x.isNaN = false) :
    clamp x = if x < 0 then 0 else if 1 < x then 1 else x := by
  have hnan : ¬isNaN x = true := by
    show ¬x.isNaN = true
    rw [h]
    exact Bool.false_ne_true
  have hzero : lt x zero = decide (x < 0) := rfl
  have hone : lt one x = decide (1 < x) := rfl
  rw [clamp, if_neg hnan, hzero, hone]
  simp only [decide_eq_true_eq]
  rfl

theorem clamp_of_lt_zero (h : x < 0) : clamp x = 0 := by
  rw [clamp_of_not_isNaN (Double.isNaN_of_lt h).1, if_pos h]

theorem clamp_of_one_lt (h : 1 < x) : clamp x = 1 := by
  rw [clamp_of_not_isNaN (Double.isNaN_of_lt h).2,
    if_neg (Double.not_lt_zero_of_one_lt h), if_pos h]

theorem clamp_of_mem_range (hzero : 0 ≤ x) (hone : x ≤ 1) : clamp x = x := by
  rw [clamp_of_not_isNaN (Double.isNaN_of_le hone).1, if_neg (Double.not_lt_of_le hzero),
    if_neg (Double.not_lt_of_le hone)]

theorem clamp_mem_range (x : Float) : 0 ≤ clamp x ∧ clamp x ≤ 1 := by
  by_cases hnan : x.isNaN = true
  · rw [clamp_of_isNaN hnan]
    exact ⟨by decide, by decide⟩
  · have hnan : x.isNaN = false := Bool.eq_false_iff.mpr hnan
    rw [clamp_of_not_isNaN hnan]
    split
    · exact ⟨by decide, by decide⟩
    · rename_i hzero
      split
      · exact ⟨by decide, by decide⟩
      · rename_i hone
        exact ⟨Double.le_of_not_lt hnan rfl hzero, Double.le_of_not_lt rfl hnan hone⟩

theorem clamp_clamp (x : Float) : clamp (clamp x) = clamp x :=
  clamp_of_mem_range (clamp_mem_range x).1 (clamp_mem_range x).2

theorem isFinite_clamp (x : Float) : (clamp x).isFinite = true :=
  Double.isFinite_of_le_of_le rfl rfl (clamp_mem_range x).1 (clamp_mem_range x).2

end Scalar

/-- The second double is the first one brought into the range from zero to one. -/
structure Clamped (x y : Float) : Prop where
  range : 0 ≤ y ∧ y ≤ 1
  nan : x.isNaN = true → y = 0
  below : x < 0 → y = 0
  inside : 0 ≤ x → x ≤ 1 → y = x
  above : 1 < x → y = 1

theorem clamped_clamp (x : Float) : Clamped x (Scalar.clamp x) where
  range := Scalar.clamp_mem_range x
  nan := Scalar.clamp_of_isNaN
  below := Scalar.clamp_of_lt_zero
  inside := Scalar.clamp_of_mem_range
  above := Scalar.clamp_of_one_lt

end Honeypot
