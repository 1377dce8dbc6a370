import Honeypot.Config.Rules
import Honeypot.Verdict.Basic

/-!
From the outcomes of the detectors to a verdict.

The weight of the engines that have a result is shared out in proportion to their base weights.
The engine of the static detectors stands at the mean of those that ran.
-/

namespace Honeypot

variable {K : Type}

/-- What came of the detectors that were run at all. -/
abbrev Outcomes (K : Type) := Detector → Option (Outcome K)

namespace Config

variable [Scalar K]

/-- The base weight of an engine beside others. It is never negative. -/
def baseWeight (c : Config K) (present : List Engine) (e : Engine) : K :=
  let weights := if present.contains .symbolic then c.weights else c.weightsWithoutSymbolic
  Scalar.max (weights.of e) Scalar.zero

def totalWeight (c : Config K) (present : List Engine) : K :=
  Scalar.sum (present.map (c.baseWeight present))

/-- The share of an engine in the weight of some engines. Where none of them has any weight, all
shares are equal. -/
def share (c : Config K) (present : List Engine) (e : Engine) : K :=
  if Scalar.le (c.totalWeight present) Scalar.zero then Scalar.ratio 1 present.length
  else c.baseWeight present e / c.totalWeight present

def shares (c : Config K) (present : List Engine) : List (Engine × K) :=
  present.map fun e => (e, c.share present e)

end Config

namespace Outcomes

variable [Scalar K] (outcomes : Outcomes K)

/-- The finding of a detector that ran, under its own name and with a confidence in range. -/
def finding? (d : Detector) : Option (Finding K) :=
  (outcomes d).bind fun outcome => outcome.finding?.map fun f =>
    { f with name := d.name, confidence := Scalar.clamp f.confidence }

def findings : List (Detector × Finding K) :=
  Detector.all.filterMap fun d => (outcomes.finding? d).map fun f => (d, f)

omit [Scalar K] in
/-- Why a detector contributed nothing, if there is anything to tell. -/
def omission? (d : Detector) : Option Omission :=
  match outcomes d with
  | some (.failed failure) => some ⟨d.name, failure.message⟩
  | some (.unavailable _ (some reason)) => some ⟨d.name, reason⟩
  | _ => none

omit [Scalar K] in
def omissions : List Omission := Detector.all.filterMap outcomes.omission?

def scores (e : Engine) : List K :=
  (outcomes.findings.filter fun entry => Engine.of entry.1 = e).map (·.2.confidence)

def present : List Engine := Engine.all.filter fun e => !(outcomes.scores e).isEmpty

end Outcomes

def aggregatorName : String := "aggregator"

namespace Config

variable [Scalar K]

def overall (c : Config K) (outcomes : Outcomes K) : K :=
  let present := outcomes.present
  Scalar.clamp <|
    (present.map fun e => c.share present e * Scalar.mean (outcomes.scores e)).foldl (· + ·)
      Scalar.zero

/-- The verdict on some outcomes. Detectors without an outcome were not run. -/
def aggregate (c : Config K) (outcomes : Outcomes K) : Verdict K :=
  let findings := outcomes.findings
  let byName := StringMap.ofList (findings.map fun entry => (entry.2.name, entry.2))
  let omissions := outcomes.omissions
  if findings.isEmpty then
    { confidence := Scalar.zero
      risk := .unknown
      techniques := .empty
      findings := byName
      omissions :=
        if omissions.isEmpty then
          [⟨aggregatorName, "no detector could evaluate the supplied evidence"⟩]
        else omissions }
  else
    let confidence := c.overall outcomes
    { confidence
      risk := c.thresholds.classify confidence
      techniques :=
        StringSet.ofList ((byName.values.filter (·.isPositive)).flatMap (·.techniques.toList))
      findings := byName
      omissions }

end Config

end Honeypot
