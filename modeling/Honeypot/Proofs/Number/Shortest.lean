import Honeypot.Proofs.Number.Bits
import Honeypot.Proofs.Number.Numeral
import Mathlib.Data.List.DropRight

namespace Honeypot

theorem dropTrailingZeros_append (digits : List Char) :
    ∃ zeros, Double.dropTrailingZeros digits ++ List.replicate zeros '0' = digits := by
  have hzeros : ∀ c ∈ digits.rtakeWhile (· == '0'), c = '0' := fun c hc =>
    eq_of_beq (List.mem_rtakeWhile_imp (p := (· == '0')) hc)
  refine ⟨(digits.rtakeWhile (· == '0')).length, ?_⟩
  rw [← List.eq_replicate_of_mem hzeros]
  exact List.rdropWhile_append_rtakeWhile

theorem dropTrailingZeros_digitsOf {n : Nat} (h : n ≠ 0) :
    ∃ zeros, Double.dropTrailingZeros (digitsOf n) ++ List.replicate zeros '0' = digitsOf n ∧
      Double.dropTrailingZeros (digitsOf n) ≠ [] ∧
      (Double.dropTrailingZeros (digitsOf n)).head? ≠ some '0' := by
  have hhead := head?_digitsOf_ne h
  obtain ⟨zeros, hdigits⟩ := dropTrailingZeros_append (digitsOf n)
  rw [← hdigits] at hhead
  refine ⟨zeros, hdigits, ?_⟩
  cases hkept : Double.dropTrailingZeros (digitsOf n) with
  | nil =>
      rw [hkept, List.nil_append] at hdigits hhead
      cases zeros with
      | zero => exact absurd hdigits.symm Nat.toDigits_ne_nil
      | succ zeros => exact absurd rfl hhead
  | cons first rest =>
      rw [hkept] at hhead
      exact ⟨List.cons_ne_nil _ _, hhead⟩

theorem isDigit_of_mem_zeros (zeros : Nat) : ∀ c ∈ List.replicate zeros '0', c.isDigit := by
  intro c hc
  rw [List.eq_of_mem_replicate hc]
  rfl

theorem ofText?_wholeNumber (negative : Bool) {first : Char} {rest : List Char}
    (hdigits : ∀ c ∈ first :: rest, c.isDigit) (hfirst : first ≠ '0') {zeros : Nat} {point : Int}
    (hpoint : point = (first :: rest).length + zeros) :
    Numeral.ofText? (writtenSign negative ++
        (first :: rest ++ List.replicate zeros '0' ++ ['.', '0'])) =
      some ⟨negative, Decimal.ofDigits (first :: rest ++ List.replicate (zeros + 1) '0') point,
        false⟩ := by
  have hwhole : ∀ c ∈ first :: rest ++ List.replicate zeros '0', c.isDigit := by
    intro c hc
    rcases List.mem_append.mp hc with hc | hc
    · exact hdigits c hc
    · exact isDigit_of_mem_zeros zeros c hc
  have h := Numeral.ofText?_parts negative _ ['0'] [] 0 hwhole (by simp) (by simp [hfirst])
    (by simp) (by simp) rfl
  have hlength : ((first :: rest ++ List.replicate zeros '0').length : Int) + 0 = point := by
    rw [hpoint, List.length_append, List.length_replicate]
    omega
  rw [hlength, List.append_assoc _ _ ['0'], ← List.replicate_succ'] at h
  simpa [writtenFraction] using h

theorem ofText?_pointed (negative : Bool) {first : Char} {rest : List Char}
    (hdigits : ∀ c ∈ first :: rest, c.isDigit) (hfirst : first ≠ '0') {whole : Nat}
    (hpos : 0 < whole) (hlength : whole < (first :: rest).length) :
    Numeral.ofText? (writtenSign negative ++
        ((first :: rest).take whole ++ '.' :: (first :: rest).drop whole)) =
      some ⟨negative, Decimal.ofDigits (first :: rest) whole, false⟩ := by
  obtain ⟨below, rfl⟩ : ∃ below, whole = below + 1 := ⟨whole - 1, by omega⟩
  have hne : (first :: rest).drop (below + 1) ≠ [] := by
    rw [ne_eq, List.drop_eq_nil_iff]
    omega
  have htake : ((first :: rest).take (below + 1)).length = below + 1 := by
    rw [List.length_take]
    omega
  have h := Numeral.ofText?_parts negative ((first :: rest).take (below + 1))
    ((first :: rest).drop (below + 1)) [] 0 (fun c hc => hdigits c (List.mem_of_mem_take hc))
    (by simp) (by simp [hfirst]) (fun c hc => hdigits c (List.mem_of_mem_drop hc)) (by simp) rfl
  rw [htake, List.take_append_drop, Int.add_zero, writtenFraction, if_neg hne,
    List.append_nil] at h
  exact h

theorem ofText?_small (negative : Bool) {digits : List Char} (hdigits : ∀ c ∈ digits, c.isDigit)
    (hne : digits ≠ []) (zeros : Nat) :
    Numeral.ofText? (writtenSign negative ++
        '0' :: '.' :: (List.replicate zeros '0' ++ digits)) =
      some ⟨negative, Decimal.ofDigits digits (-zeros), false⟩ := by
  have hfraction : ∀ c ∈ List.replicate zeros '0' ++ digits, c.isDigit := by
    intro c hc
    rcases List.mem_append.mp hc with hc | hc
    · exact isDigit_of_mem_zeros zeros c hc
    · exact hdigits c hc
  have h := Numeral.ofText?_parts negative ['0'] (List.replicate zeros '0' ++ digits) [] 0
    (by simp) (by simp) (by simp) hfraction (by simp) rfl
  have hvalue : Decimal.ofDigits (['0'] ++ (List.replicate zeros '0' ++ digits)) 1 =
      Decimal.ofDigits digits (-zeros) := by
    rw [← List.append_assoc]
    refine (Decimal.ofDigits_zeros_append (zeros + 1) digits 1).trans ?_
    congr 1
    omega
  simp only [List.length_singleton, Int.natCast_one, Int.add_zero, hvalue] at h
  simpa [writtenFraction, hne] using h

theorem ofText?_scientific (negative : Bool) {first : Char} {rest : List Char}
    (hdigits : ∀ c ∈ first :: rest, c.isDigit) (point : Int) :
    Numeral.ofText? (writtenSign negative ++ ([first] ++ (writtenFraction rest ++
        'e' :: (if point - 1 < 0 then '-' else '+') :: digitsOf (point - 1).natAbs))) =
      some ⟨negative, Decimal.ofDigits (first :: rest) point, false⟩ := by
  have hone : ∀ c ∈ [first], c.isDigit := by
    simpa using hdigits first List.mem_cons_self
  have hrest : ∀ c ∈ rest, c.isDigit := fun c hc => hdigits c (List.mem_cons_of_mem _ hc)
  have h := Numeral.ofText?_parts negative [first] rest
    ('e' :: (if point - 1 < 0 then '-' else '+') :: digitsOf (point - 1).natAbs) (point - 1)
    hone (by simp) (by simp) hrest (by simp) (splitExponent_written (point - 1))
  have hpoint : (([first] : List Char).length : Int) + (point - 1) = point := by
    rw [List.length_singleton]
    omega
  have hnonempty (front : List Char) (c : Char) (back : List Char) :
      (front ++ c :: back).isEmpty = false := by simp
  rw [hpoint, hnonempty] at h
  exact h

theorem ofText?_layout (negative : Bool) {digits : List Char} (hdigits : ∀ c ∈ digits, c.isDigit)
    (hne : digits ≠ []) (hhead : digits.head? ≠ some '0') (point : Int) :
    ∃ zeros, Numeral.ofText? (writtenSign negative ++ Double.layout digits point) =
      some ⟨negative, Decimal.ofDigits (digits ++ List.replicate zeros '0') point, false⟩ := by
  obtain ⟨first, rest, rfl⟩ := List.exists_cons_of_ne_nil hne
  have hfirst : first ≠ '0' := by simpa using hhead
  simp only [Double.layout]
  split
  · rename_i hpoint
    have hwhole : (point.toNat : Int) = point := Int.toNat_of_nonneg (by omega)
    split
    · rename_i hlength
      exact ⟨point.toNat - (first :: rest).length + 1,
        ofText?_wholeNumber negative hdigits hfirst (by omega)⟩
    · rename_i hlength
      refine ⟨0, ?_⟩
      rw [ofText?_pointed negative hdigits hfirst (by omega) (by omega), hwhole,
        List.replicate_zero, List.append_nil]
  · split
    · rename_i hpoint
      refine ⟨0, ?_⟩
      have hzeros : -((-point).toNat : Int) = point := by omega
      rw [ofText?_small negative hdigits hne, hzeros, List.replicate_zero, List.append_nil]
    · refine ⟨0, ?_⟩
      rw [List.replicate_zero, List.append_nil, ← ofText?_scientific negative hdigits point]
      cases rest <;> rfl

namespace Double

theorem pattern_of_onGrid? {pattern : Nat} {exponent : Int} {d : Decimal}
    (h : onGrid? pattern exponent = some d) : d.pattern = pattern := by
  simp only [onGrid?] at h
  split at h
  · rename_i hlower hupper
    split at h
    · obtain rfl := Option.some.inj h
      exact eq_of_beq hlower
    · obtain rfl := Option.some.inj h
      split
      · exact eq_of_beq hlower
      · exact eq_of_beq hupper
    · obtain rfl := Option.some.inj h
      exact eq_of_beq hupper
  · rename_i hlower _
    obtain rfl := Option.some.inj h
    exact eq_of_beq hlower
  · rename_i _ hupper
    obtain rfl := Option.some.inj h
    exact eq_of_beq hupper
  · exact absurd h (by simp)

/-- The decimal that is written for a finite double reads back as this double. -/
theorem pattern_shortest {pattern : Nat} (h : pattern < infinity) :
    (shortest pattern).pattern = pattern := by
  simp only [shortest]
  cases hfound : (List.range 17).findSome? fun (digits : Nat) =>
      onGrid? pattern (decimalPosition pattern - digits - 1) with
  | none => rw [Option.getD_none, pattern_exactDecimal h]
  | some d =>
      obtain ⟨digits, _, hgrid⟩ := List.exists_of_findSome?_eq_some hfound
      rw [Option.getD_some, pattern_of_onGrid? hgrid]

theorem ofText?_writePattern (negative : Bool) {pattern : Nat} (h : pattern < infinity) :
    ∃ size : Decimal, Numeral.ofText? (writtenSign negative ++ writePattern pattern) =
      some ⟨negative, size, false⟩ ∧ size.pattern = pattern := by
  by_cases hzero : pattern = 0
  · subst hzero
    exact ⟨⟨0, -1⟩, by cases negative <;> decide, rfl⟩
  · have hshortest := pattern_shortest h
    have hwrite : writePattern pattern = layout (dropTrailingZeros (digitsOf
        (shortest pattern).coefficient)) ((digitsOf (shortest pattern).coefficient).length +
          (shortest pattern).exponent) := by
      simp only [writePattern, if_neg hzero]
    rw [hwrite]
    generalize shortest pattern = d at hshortest
    have hcoefficient : d.coefficient ≠ 0 := by
      intro hc
      rw [Decimal.pattern, if_pos hc] at hshortest
      exact hzero hshortest.symm
    obtain ⟨dropped, hdigits, hne, hfirst⟩ := dropTrailingZeros_digitsOf hcoefficient
    have hmem : ∀ c ∈ dropTrailingZeros (digitsOf d.coefficient), c.isDigit := fun c hc =>
      isDigit_of_mem_digitsOf c (hdigits ▸ List.mem_append_left _ hc)
    obtain ⟨added, htext⟩ := ofText?_layout negative hmem hne hfirst
      ((digitsOf d.coefficient).length + d.exponent)
    refine ⟨_, htext, ?_⟩
    rw [Decimal.ofDigits_append_zeros, Decimal.pattern_padded, ← Decimal.pattern_padded _ dropped,
      ← Decimal.ofDigits_append_zeros, hdigits, Decimal.ofDigits_digitsOf]
    exact hshortest

/-- A finite double is read back from its text, which is never that of an integer. -/
theorem ofText?_write {x : Float} (h : x.isFinite = true) :
    ∃ n, Numeral.ofText? (write x) = some n ∧ n.integral = false ∧ n.toFloat? = some x := by
  have hfinite := (isFinite_iff_magnitude_lt x).mp h
  obtain ⟨size, htext, hpattern⟩ := ofText?_writePattern (isNegative x) hfinite
  have hwrite : write x = writtenSign (isNegative x) ++ writePattern (magnitude x) := by
    unfold write writtenSign
    split <;> rfl
  refine ⟨_, hwrite ▸ htext, rfl, ?_⟩
  simp only [Numeral.toFloat?, hpattern, if_neg (Nat.ne_of_lt hfinite), ofPattern_magnitude]

end Double

theorem Numeral.isFinite_of_toFloat? {n : Numeral} {x : Float} (h : n.toFloat? = some x) :
    x.isFinite = true := by
  simp only [toFloat?] at h
  split at h
  · exact absurd h (by simp)
  · rename_i hne
    obtain rfl := Option.some.inj h
    exact Double.isFinite_ofPattern (Nat.lt_of_le_of_ne (Decimal.pattern_le_infinity _) hne)

end Honeypot
