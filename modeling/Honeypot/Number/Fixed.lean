import Honeypot.Number.Double

namespace Honeypot.Double

/-- A fraction rounded to a whole number; a half goes to the even neighbour. -/
def roundHalfEven (numerator denominator : Nat) : Nat :=
  let below := numerator / denominator
  match compare (2 * (numerator % denominator)) denominator with
  | .lt => below
  | .eq => below + below % 2
  | .gt => below + 1

/-- The exact value of a double rounded to two places. The sign stays even where the digits are
all zero, and no exponent is ever written. -/
def writeHundredths (x : Float) : List Char :=
  if x.isNaN then "NaN".toList
  else
    let pattern := magnitude x
    let unsigned :=
      if infinity ≤ pattern then "inf".toList
      else
        let hundredths := roundHalfEven (units pattern * 100) unitsPerOne
        Nat.toDigits 10 (hundredths / 100) ++
          '.' :: Nat.digitChar (hundredths % 100 / 10) :: [Nat.digitChar (hundredths % 10)]
    if isNegative x then '-' :: unsigned else unsigned

end Honeypot.Double
