import Honeypot.Json.Record
import Honeypot.Scalar

namespace Honeypot

open Honeypot.Json

/-- How risky a contract looks. `unknown` is the level of a contract of which nothing could be
checked, which is not the same as one that was checked and found safe. -/
inductive Risk
  | safe
  | low
  | medium
  | high
  | critical
  | unknown
deriving DecidableEq

namespace Risk

def all : List Risk := [.safe, .low, .medium, .high, .critical, .unknown]

def name : Risk → String
  | .safe => "SAFE"
  | .low => "LOW"
  | .medium => "MEDIUM"
  | .high => "HIGH"
  | .critical => "CRITICAL"
  | .unknown => "UNKNOWN"

def sign : Risk → String
  | .safe => "✅"
  | .low => "🟡"
  | .medium => "🟠"
  | .high => "🔴"
  | .critical => "💀"
  | .unknown => "❓"

/-- How high a level is, for the levels of what was checked. -/
def rank : Risk → Nat
  | .safe => 0
  | .low => 1
  | .medium => 2
  | .high => 3
  | .critical => 4
  | .unknown => 5

def table : List (String × Risk) := all.map fun r => (r.name, r)

def ofTree? : Tree → Option Risk := Tree.choice? table

end Risk

/-- The least confidence of each level above `safe`. -/
structure Thresholds (K : Type) where
  critical : K
  high : K
  medium : K
  low : K

namespace Thresholds

variable {K : Type} [Scalar K]

def standard : Thresholds K :=
  { critical := Scalar.percent 80, high := Scalar.percent 60, medium := Scalar.percent 40,
    low := Scalar.percent 20 }

/-- The highest level whose threshold a confidence reaches. -/
def classify (t : Thresholds K) (confidence : K) : Risk :=
  if Scalar.le t.critical confidence then .critical
  else if Scalar.le t.high confidence then .high
  else if Scalar.le t.medium confidence then .medium
  else if Scalar.le t.low confidence then .low
  else .safe

end Thresholds

end Honeypot
