import Honeypot.Number.Decimal

namespace Honeypot.Double

/-- The exponent `k` for which the value lies between `10 ^ (k - 1)` and `10 ^ k`. The logarithm
to base two gives it up to one. -/
def decimalPosition (pattern : Nat) : Int :=
  let count := units pattern
  let estimate := ((count.log2 : Int) - unitPlaces) * 30103 / 100000 + 1
  let reached : Bool :=
    if 0 ≤ estimate then Nat.pow 10 estimate.toNat * unitsPerOne ≤ count
    else unitsPerOne ≤ count * Nat.pow 10 (-estimate).toNat
  if reached then estimate + 1 else estimate

/-- Of the multiples of `10 ^ exponent` next to the value, the nearer one that reads back as the
same double. A value midway between two of them takes the even multiple. -/
def onGrid? (pattern : Nat) (exponent : Int) : Option Decimal :=
  let numerator := units pattern * Nat.pow 10 (-exponent).toNat
  let denominator := unitsPerOne * Nat.pow 10 exponent.toNat
  let below := numerator / denominator
  let rest := numerator % denominator
  let lower : Decimal := ⟨below, exponent⟩
  let upper : Decimal := ⟨below + 1, exponent⟩
  match lower.pattern == pattern, upper.pattern == pattern with
  | true, true =>
      match compare (2 * rest) denominator with
      | .lt => some lower
      | .eq => some (if below % 2 = 0 then lower else upper)
      | .gt => some upper
  | true, false => some lower
  | false, true => some upper
  | false, false => none

def exactDecimal (pattern : Nat) : Decimal :=
  ⟨units pattern * Nat.pow 5 unitPlaces, -unitPlaces⟩

/-- The decimal with the fewest digits that reads back as the same double. Seventeen digits always
suffice; the value itself, written out in full, is the last resort. -/
def shortest (pattern : Nat) : Decimal :=
  let position := decimalPosition pattern
  ((List.range 17).findSome? fun (digits : Nat) => onGrid? pattern (position - digits - 1)).getD
    (exactDecimal pattern)

/-- Lay out the number `0.d₁d₂… * 10 ^ point`. Between `10 ^ -5` and `10 ^ 16` it is written with
a decimal point and at least one place, otherwise with an exponent that carries a sign. -/
def layout (digits : List Char) (point : Int) : List Char :=
  if 0 < point ∧ point ≤ 16 then
    let whole := point.toNat
    if digits.length ≤ whole then
      digits ++ List.replicate (whole - digits.length) '0' ++ ['.', '0']
    else digits.take whole ++ '.' :: digits.drop whole
  else if -5 < point ∧ point ≤ 0 then
    '0' :: '.' :: (List.replicate (-point).toNat '0' ++ digits)
  else
    let mantissa :=
      match digits with
      | [] => []
      | [digit] => [digit]
      | digit :: rest => digit :: '.' :: rest
    let exponent := point - 1
    mantissa ++ 'e' :: (if exponent < 0 then '-' else '+') :: Nat.toDigits 10 exponent.natAbs

def dropTrailingZeros (digits : List Char) : List Char :=
  (digits.reverse.dropWhile (· == '0')).reverse

def writePattern (pattern : Nat) : List Char :=
  if pattern = 0 then ['0', '.', '0']
  else
    let decimal := shortest pattern
    let digits := Nat.toDigits 10 decimal.coefficient
    layout (dropTrailingZeros digits) (digits.length + decimal.exponent)

def write (x : Float) : List Char :=
  if isNegative x then '-' :: writePattern (magnitude x) else writePattern (magnitude x)

end Honeypot.Double
