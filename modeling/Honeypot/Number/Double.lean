/-!
Doubles as bit patterns, and the exact values behind them.

The patterns of the finite doubles without a sign are the natural numbers below `Double.infinity`,
in the order of their values. Every such value is a whole number of units of `2 ^ -1074`, so a
double is compared with a fraction in exact arithmetic.
-/

namespace Honeypot.Double

/-- The pattern of infinity, one past the patterns of the finite doubles. -/
def infinity : Nat := 0x7FF * Nat.pow 2 52

def signBit : Nat := Nat.pow 2 63

/-- The least positive double has this many binary places. -/
def unitPlaces : Nat := 1074

def unitsPerOne : Nat := Nat.pow 2 unitPlaces

/-- The value of a pattern without a sign, in units of `2 ^ -1074`. -/
def units (pattern : Nat) : Nat :=
  let exponent := pattern / Nat.pow 2 52
  let fraction := pattern % Nat.pow 2 52
  if exponent = 0 then fraction else (Nat.pow 2 52 + fraction) * Nat.pow 2 (exponent - 1)

/-- The pattern of the largest double that is at most so many units. -/
def floorPattern (count : Nat) : Nat :=
  let shift := count.log2 - 52
  shift * Nat.pow 2 52 + count / Nat.pow 2 shift

/-- The pattern of the double nearest to a fraction with a positive denominator. A fraction midway
between two doubles goes to the even pattern, and one too large for every double goes to
infinity. -/
def nearest (numerator denominator : Nat) : Nat :=
  let scaled := numerator * unitsPerOne
  let below := floorPattern (scaled / denominator)
  if infinity ≤ below then infinity
  else
    match compare (2 * scaled) ((units below + units (below + 1)) * denominator) with
    | .lt => below
    | .eq => below + below % 2
    | .gt => below + 1

def magnitude (x : Float) : Nat := x.toBits.toNat % signBit

def isNegative (x : Float) : Bool := signBit ≤ x.toBits.toNat

def ofPattern (negative : Bool) (pattern : Nat) : Float :=
  Float.ofBits (UInt64.ofNat (pattern + if negative then signBit else 0))

end Honeypot.Double
