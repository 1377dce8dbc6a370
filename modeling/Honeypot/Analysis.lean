import Honeypot.Detect.Bytecode
import Honeypot.Detect.Functions
import Honeypot.Detect.History
import Honeypot.Detect.Source
import Honeypot.Scorer
import Honeypot.Verdict.Aggregate

namespace Honeypot.Config

variable {K : Type} [Scalar K]

/-- Run one of the detectors that read the evidence. Each of them reads its own part of it. -/
def inspect (c : Config K) (dossier : Dossier) : Detector → Option (Outcome K)
  | .bytecode => some (c.inspectBytecode dossier.bytecode)
  | .functions => some (c.inspectAbi dossier.abi)
  | .source => some (c.inspectSource dossier.source)
  | .history => some (c.inspectHistory dossier.history dossier.address)
  | .ml | .symbolic => none

/-- The outcomes of a detector's own run, or of the answers from outside. -/
def merge (own : Outcomes K) (external : External K) : Outcomes K := fun d =>
  (external.outcome? d).or (own d)

/-- Analyse a contract. Only a dossier that is not valid is an error; what goes wrong with a
detector is told in the verdict. -/
def analyze (c : Config K) (dossier : Dossier) (external : External K) :
    Except Fault (Verdict K) := do
  dossier.validate
  return c.aggregate (merge (c.inspect dossier) external)

end Honeypot.Config
