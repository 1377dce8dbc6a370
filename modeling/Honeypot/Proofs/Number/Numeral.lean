import Honeypot.Proofs.Number.Rounding

namespace Honeypot

theorem splitDigits_append {digits rest : List Char} (hdigits : ∀ c ∈ digits, c.isDigit)
    (hrest : ∀ c ∈ rest.head?, ¬c.isDigit) : splitDigits (digits ++ rest) = (digits, rest) := by
  have hstop : rest.takeWhile Char.isDigit = [] ∧ rest.dropWhile Char.isDigit = rest := by
    cases rest with
    | nil => exact ⟨rfl, rfl⟩
    | cons c rest =>
        have hc : ¬c.isDigit := hrest c rfl
        exact ⟨List.takeWhile_cons_of_neg hc, List.dropWhile_cons_of_neg hc⟩
  rw [splitDigits, List.takeWhile_append_of_pos hdigits, List.dropWhile_append_of_pos hdigits,
    hstop.1, hstop.2, List.append_nil]

def writtenSign (negative : Bool) : List Char := if negative then ['-'] else []

def writtenFraction (digits : List Char) : List Char :=
  if digits = [] then [] else '.' :: digits

theorem splitMinus_append (negative : Bool) {text : List Char} (h : text.head? ≠ some '-') :
    splitMinus (writtenSign negative ++ text) = (negative, text) := by
  cases negative with
  | true => rfl
  | false =>
      rw [writtenSign, if_neg Bool.false_ne_true, List.nil_append]
      unfold splitMinus
      split
      · exact absurd rfl h
      · rfl

theorem splitFraction_append {digits rest : List Char} (hdigits : ∀ c ∈ digits, c.isDigit)
    (hrest : ∀ c ∈ rest.head?, ¬c.isDigit ∧ c ≠ '.') :
    splitFraction (writtenFraction digits ++ rest) = some (digits, rest) := by
  have hsplit := splitDigits_append hdigits fun c hc => (hrest c hc).1
  unfold writtenFraction
  split
  · rename_i hnil
    rw [hnil, List.nil_append]
    unfold splitFraction
    split
    · exact absurd rfl (hrest '.' rfl).2
    · rfl
  · rename_i hne
    simp only [List.cons_append, splitFraction, hsplit, if_neg hne]

/-- The number `0.d₁d₂… * 10 ^ point`. -/
def Decimal.ofDigits (digits : List Char) (point : Int) : Decimal :=
  ⟨Nat.ofDigitChars 10 digits 0, point - digits.length⟩

theorem Decimal.ofDigits_append_zeros (digits : List Char) (zeros : Nat) (point : Int) :
    ofDigits (digits ++ List.replicate zeros '0') point =
      (ofDigits digits point).padded zeros := by
  simp only [ofDigits, padded, Nat.ofDigitChars_append, Nat.ofDigitChars_replicate_zero,
    List.length_append, List.length_replicate, Decimal.mk.injEq]
  exact ⟨Nat.mul_comm _ _, by omega⟩

theorem Decimal.ofDigits_zeros_append (zeros : Nat) (digits : List Char) (point : Int) :
    ofDigits (List.replicate zeros '0' ++ digits) point = ofDigits digits (point - zeros) := by
  simp only [ofDigits, Nat.ofDigitChars_append, Nat.ofDigitChars_replicate_zero, Nat.mul_zero,
    List.length_append, List.length_replicate, Decimal.mk.injEq, true_and]
  omega

theorem Numeral.ofText?_parts (negative : Bool) (whole fraction tail : List Char) (exponent : Int)
    (hwhole : ∀ c ∈ whole, c.isDigit) (hne : whole ≠ [])
    (hzero : whole.head? = some '0' → whole.length = 1)
    (hfraction : ∀ c ∈ fraction, c.isDigit)
    (htail : ∀ c ∈ tail.head?, ¬c.isDigit ∧ c ≠ '.')
    (hexponent : splitExponent tail = some (exponent, [])) :
    Numeral.ofText? (writtenSign negative ++ (whole ++ (writtenFraction fraction ++ tail))) =
      some ⟨negative, Decimal.ofDigits (whole ++ fraction) (whole.length + exponent),
        (writtenFraction fraction ++ tail).isEmpty⟩ := by
  have hminus : (whole ++ (writtenFraction fraction ++ tail)).head? ≠ some '-' := by
    intro h
    obtain ⟨first, rest, rfl⟩ := List.exists_cons_of_ne_nil hne
    obtain rfl : first = '-' := by simpa using h
    exact absurd (hwhole '-' List.mem_cons_self) (by decide)
  have hstop : ∀ c ∈ (writtenFraction fraction ++ tail).head?, ¬c.isDigit := by
    unfold writtenFraction
    split
    · exact fun c hc => (htail c hc).1
    · rintro c ⟨⟩
      decide
  have hstart : ¬(whole = [] ∨ whole.head? = some '0' ∧ whole.length ≠ 1) := by
    rintro (h | ⟨h, hlength⟩)
    · exact hne h
    · exact hlength (hzero h)
  have hpoint : exponent - fraction.length =
      whole.length + exponent - ((whole ++ fraction).length : Int) := by
    rw [List.length_append]
    omega
  simp only [ofText?, splitMinus_append negative hminus, splitDigits_append hwhole hstop,
    if_neg hstart, splitFraction_append hfraction htail, hexponent, Decimal.ofDigits, hpoint]


abbrev digitsOf (n : Nat) : List Char := Nat.toDigits 10 n

theorem isDigit_of_mem_digitsOf {n : Nat} : ∀ c ∈ digitsOf n, c.isDigit := fun _ hc =>
  Nat.isDigit_of_mem_toDigits (by decide) (by decide) hc

theorem splitDigits_digitsOf (n : Nat) : splitDigits (digitsOf n) = (digitsOf n, []) := by
  have hdigits : ∀ c ∈ digitsOf n, c.isDigit := isDigit_of_mem_digitsOf
  have hend : ∀ c ∈ ([] : List Char).head?, ¬c.isDigit := by simp
  have hsplit := splitDigits_append hdigits hend
  rwa [List.append_nil] at hsplit

theorem head?_digitsOf_ne {n : Nat} (h : n ≠ 0) : (digitsOf n).head? ≠ some '0' := by
  induction n using Nat.strongRecOn with
  | ind n ih =>
      by_cases hsmall : n < 10
      · rw [digitsOf, Nat.toDigits_of_lt_base hsmall]
        have hdigit : ∀ k < 10, k ≠ 0 → k.digitChar ≠ '0' := by decide
        simpa using hdigit n hsmall h
      · have hfirst := ih (n / 10) (by omega) (by omega)
        obtain ⟨first, rest, hcons⟩ :=
          List.exists_cons_of_ne_nil (Nat.toDigits_ne_nil (n := n / 10) (b := 10))
        rw [digitsOf, hcons] at hfirst
        rw [digitsOf, Nat.toDigits_of_base_le (by decide) (by omega), hcons]
        exact hfirst

theorem splitExponent_written (exponent : Int) :
    splitExponent ('e' :: (if exponent < 0 then '-' else '+') :: digitsOf exponent.natAbs) =
      some (exponent, []) := by
  have hne : digitsOf exponent.natAbs ≠ [] := Nat.toDigits_ne_nil
  have hsign : splitSign ((if exponent < 0 then '-' else '+') :: digitsOf exponent.natAbs) =
      (decide (exponent < 0), digitsOf exponent.natAbs) := by
    by_cases h : exponent < 0 <;> simp [splitSign, h]
  have hsize :
      (if exponent < 0 then -(exponent.natAbs : Int) else exponent.natAbs) = exponent := by
    omega
  simp only [splitExponent, true_or, if_true, hsign, splitDigits_digitsOf, hne, if_false,
    Nat.ofDigitChars_ten_toDigits, decide_eq_true_eq, hsize]

theorem Decimal.ofDigits_digitsOf (coefficient : Nat) (exponent : Int) :
    ofDigits (digitsOf coefficient) ((digitsOf coefficient).length + exponent) =
      ⟨coefficient, exponent⟩ := by
  rw [ofDigits, Nat.ofDigitChars_ten_toDigits, Int.add_comm, Int.add_sub_cancel]

theorem Numeral.ofText?_integer (negative : Bool) (n : Nat) :
    Numeral.ofText? (writtenSign negative ++ digitsOf n) = some ⟨negative, ⟨n, 0⟩, true⟩ := by
  have hzero : (digitsOf n).head? = some '0' → (digitsOf n).length = 1 := by
    intro h
    rcases Nat.eq_zero_or_pos n with rfl | hpos
    · rfl
    · exact absurd h (head?_digitsOf_ne (Nat.ne_of_gt hpos))
  have h := Numeral.ofText?_parts negative (digitsOf n) [] [] 0 isDigit_of_mem_digitsOf
    Nat.toDigits_ne_nil hzero (by simp) (by simp) rfl
  have hvalue :
      Decimal.ofDigits (digitsOf n ++ []) ((digitsOf n).length + (0 : Int)) = ⟨n, 0⟩ := by
    rw [List.append_nil]
    exact Decimal.ofDigits_digitsOf n 0
  rw [hvalue] at h
  simpa [writtenFraction] using h

end Honeypot
