import Honeypot.Number.Double

namespace Honeypot

/-- The number `coefficient * 10 ^ exponent`. -/
structure Decimal where
  coefficient : Nat
  exponent : Int
deriving DecidableEq, Repr

namespace Decimal

/-- The pattern of the double nearest to a decimal. Exponents that are far out of the range of
doubles are answered without computing the power of ten. -/
def pattern (d : Decimal) : Nat :=
  if d.coefficient = 0 then 0
  else if 400 < d.exponent then Double.infinity
  else if d.exponent + d.coefficient.log2 < -400 then 0
  else if 0 ≤ d.exponent then Double.nearest (d.coefficient * Nat.pow 10 d.exponent.toNat) 1
  else Double.nearest d.coefficient (Nat.pow 10 (-d.exponent).toNat)

end Decimal

/-- The digits at the front of a text, and what follows them. -/
def splitDigits (text : List Char) : List Char × List Char :=
  (text.takeWhile Char.isDigit, text.dropWhile Char.isDigit)

/-- A sign at the front of a text, `true` for minus, and what follows it. -/
def splitSign : List Char → Bool × List Char
  | '-' :: rest => (true, rest)
  | '+' :: rest => (false, rest)
  | text => (false, text)

def splitMinus : List Char → Bool × List Char
  | '-' :: rest => (true, rest)
  | text => (false, text)

/-- The digits of a fraction at the front of a text, none where it does not start with a point,
and what follows them. A point without digits is refused. -/
def splitFraction (text : List Char) : Option (List Char × List Char) :=
  match text with
  | '.' :: rest =>
      let (digits, rest) := splitDigits rest
      if digits = [] then none else some (digits, rest)
  | _ => some ([], text)

/-- An exponent at the front of a text, zero where none is written, and what follows it. An
exponent mark without digits is refused. -/
def splitExponent (text : List Char) : Option (Int × List Char) :=
  match text with
  | mark :: rest =>
      if mark = 'e' ∨ mark = 'E' then
        let (negative, rest) := splitSign rest
        let (digits, rest) := splitDigits rest
        if digits = [] then none
        else
          let size : Int := Nat.ofDigitChars 10 digits 0
          some (if negative then -size else size, rest)
      else some (0, text)
  | [] => some (0, [])

/-- A written number: its sign, its value, and whether it is written as an integer, that is,
without a fraction and without an exponent. -/
structure Numeral where
  negative : Bool
  size : Decimal
  integral : Bool
deriving DecidableEq, Repr

namespace Numeral

/-- Read a numeral: an optional minus, an integer part without superfluous zeros, an optional
fraction and an optional exponent. -/
def ofText? (text : List Char) : Option Numeral :=
  let (negative, unsigned) := splitMinus text
  let (whole, rest) := splitDigits unsigned
  if whole = [] ∨ (whole.head? = some '0' ∧ whole.length ≠ 1) then none
  else
    match splitFraction rest with
    | none => none
    | some (fraction, tail) =>
        match splitExponent tail with
        | some (exponent, []) =>
            some {
              negative
              size := ⟨Nat.ofDigitChars 10 (whole ++ fraction) 0, exponent - fraction.length⟩
              integral := rest.isEmpty }
        | _ => none

def toNat? (n : Numeral) : Option Nat :=
  if n.integral && !n.negative then some n.size.coefficient else none

def toFloat? (n : Numeral) : Option Float :=
  let pattern := n.size.pattern
  if pattern = Double.infinity then none else some (Double.ofPattern n.negative pattern)

end Numeral

end Honeypot
