import Honeypot.Finding
import Honeypot.Number.Fixed
import Honeypot.Verdict.Risk

namespace Honeypot

open Honeypot.Json

structure Omission where
  detector : String
  message : String
deriving DecidableEq

/-- The verdict on a contract, with the findings that it rests on, by the names of the
detectors. -/
structure Verdict (K : Type) where
  confidence : K
  risk : Risk
  techniques : StringSet
  findings : StringMap (Finding K)
  omissions : List Omission
deriving BEq

namespace Omission

def toValue {K : Type} (o : Omission) : Value K :=
  .object [("detector", .text o.detector), ("message", .text o.message)]

def ofTree? (t : Tree) : Option Omission := do
  match ← t.fields? [["detector"], ["message"]] with
  | [detector, message] =>
      return {
        detector := ← required Tree.text? detector
        message := ← required Tree.text? message }
  | _ => none

end Omission

namespace Verdict

/-- The verdict as a JSON value. The name of a finding is told by its key. -/
def toValue {K : Type} (v : Verdict K) : Value K :=
  .object [
    ("confidence", .real v.confidence),
    ("risk_level", .text v.risk.name),
    ("techniques", Value.ofSet v.techniques),
    ("detectors", Value.ofMap (v.findings.mapValues fun _ f => .object f.body)),
    ("errors", .array (v.omissions.map Omission.toValue))]

def toText (v : Verdict Float) : String := Value.toText v.toValue

def finding? (name : String) (t : Tree) : Option (Finding Float) := do
  match ← t.fields? [["confidence"], ["techniques"], ["evidence"]] with
  | [confidence, techniques, evidence] =>
      return {
        name
        confidence := ← required Tree.float? confidence
        techniques := ← optional .empty readSet? techniques
        evidence := ← optional .empty (readEvidence? (Value.maxLevels - 4)) evidence }
  | _ => none

def namedFinding? (member : Content × Tree) : Option (String × Finding Float) :=
  match member with
  | (some name, t) => (finding? name t).map fun f => (name, f)
  | (none, _) => none

/-- Read findings by name. Of findings with one name the last counts. -/
def findings? : Tree → Option (StringMap (Finding Float))
  | .object members => (members.mapM namedFinding?).map StringMap.ofList
  | _ => none

def ofTree? (t : Tree) : Option (Verdict Float) := do
  match ← t.fields? [["confidence"], ["risk_level"], ["techniques"], ["detectors"],
      ["errors"]] with
  | [confidence, risk, techniques, findings, omissions] =>
      return {
        confidence := ← required Tree.float? confidence
        risk := ← required Risk.ofTree? risk
        techniques := ← optional .empty readSet? techniques
        findings := ← optional .empty findings? findings
        omissions := ← optional [] (Tree.list? Omission.ofTree?) omissions }
  | _ => none

def ofText? (text : String) : Option (Verdict Float) := (Tree.ofText? text).bind ofTree?

def writeConfidence (x : Float) : String := String.ofList (Double.writeHundredths x)

/-- A few lines that tell a reader what the verdict is and what it rests on. -/
def summary (v : Verdict Float) : String :=
  let head :=
    v.risk.sign ++ " Risk: " ++ v.risk.name ++ " | Confidence: " ++
      writeConfidence v.confidence ++ "\n"
  let findings := v.findings.entries.map fun entry =>
    "   " ++ entry.1 ++ ": " ++ writeConfidence entry.2.confidence ++ "\n"
  let techniques :=
    match v.techniques.toList with
    | [] => []
    | list => "   Techniques:\n" :: list.map fun technique => "     - " ++ technique ++ "\n"
  let omissions := v.omissions.map fun o => "   ⚠️ " ++ o.detector ++ ": " ++ o.message ++ "\n"
  String.join (head :: (findings ++ techniques ++ omissions))

end Verdict

end Honeypot
