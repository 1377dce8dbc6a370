/-!
The numbers in which confidences, weights and ratios are computed.

Scores are written once over `Scalar` and are used at two types: `Float`, in which the program
runs and where rounding, signed zeros and not-a-number values show, and `Rat`, in which the same
formulas are exact.
-/

namespace Honeypot

/-- The arithmetic that scoring needs. Comparisons answer `false` on values that are not
numbers. -/
class Scalar (K : Type) extends Add K, Mul K, Div K where
  /-- The number nearest to a natural number. -/
  ofNat : Nat → K
  /-- The total of an empty list of terms. -/
  emptySum : K
  /-- Holds for a value that stands for no number at all. -/
  isNaN : K → Bool
  /-- Holds when both are numbers and the first is smaller. -/
  lt : K → K → Bool
  /-- Holds when both are numbers and the first is at most the second. -/
  le : K → K → Bool

namespace Scalar

variable {K : Type} [Scalar K]

def zero : K := ofNat 0

def one : K := ofNat 1

def ratio (part whole : Nat) : K := ofNat part / ofNat whole

def percent (n : Nat) : K := ratio n 100

/-- The larger of two values; a value that is no number gives way to the other, and the first is
kept when they are equal. -/
def max (a b : K) : K :=
  if isNaN a then b else if isNaN b then a else if lt a b then b else a

/-- The smaller of a value and one; a value that is no number counts as one. -/
def capAtOne (a : K) : K :=
  if isNaN a then one else if lt one a then one else a

/-- The nearest value between zero and one. A value that is no number carries no signal. -/
def clamp (a : K) : K :=
  if isNaN a then zero else if lt a zero then zero else if lt one a then one else a

def sum (terms : List K) : K := terms.foldl (· + ·) emptySum

def mean (terms : List K) : K := sum terms / ofNat terms.length

def isPositive (a : K) : Bool := lt zero a

end Scalar

/-- Doubles. An empty total is negative zero, the neutral element of their addition. -/
instance : Scalar Float where
  ofNat := Float.ofNat
  emptySum := -0.0
  isNaN := Float.isNaN
  lt a b := decide (a < b)
  le a b := decide (a ≤ b)

/-- Exact fractions, in which every value is a number. -/
instance : Scalar Rat where
  ofNat n := (n : Rat)
  emptySum := 0
  isNaN _ := false
  lt a b := decide (a < b)
  le a b := decide (a ≤ b)

end Honeypot
