import Honeypot.Json.Record
import Honeypot.Json.Value
import Honeypot.Scalar

namespace Honeypot

open Honeypot.Json

/-- The six sources of findings: four detectors that read the evidence, and two engines that are
asked from outside. -/
inductive Detector
  | bytecode
  | functions
  | source
  | history
  | ml
  | symbolic
deriving DecidableEq

namespace Detector

def all : List Detector := [.bytecode, .functions, .source, .history, .ml, .symbolic]

def internal : List Detector := [.bytecode, .functions, .source, .history]

def name : Detector → String
  | .bytecode => "bytecode_pattern"
  | .functions => "function_signature"
  | .source => "source_pattern"
  | .history => "transaction_history"
  | .ml => "ml"
  | .symbolic => "symbolic"

def table : List (String × Detector) := all.map fun d => (d.name, d)

def ofTree? : Tree → Option Detector := Tree.choice? table

end Detector

structure Finding (K : Type) where
  name : String
  confidence : K
  techniques : StringSet
  evidence : StringMap (Value K)
deriving BEq

namespace Finding

variable {K : Type} [Scalar K]

/-- A finding under any name, with a confidence brought into range. -/
def named (name : String) (confidence : K) : Finding K :=
  { name, confidence := Scalar.clamp confidence, techniques := .empty, evidence := .empty }

def of (d : Detector) (confidence : K) : Finding K := named d.name confidence

omit [Scalar K] in
def withTechnique (f : Finding K) (technique : String) : Finding K :=
  { f with techniques := StringSet.add f.techniques technique }

omit [Scalar K] in
def withEvidence (f : Finding K) (key : String) (value : Value K) : Finding K :=
  { f with evidence := f.evidence.insert key value }

def isPositive (f : Finding K) : Bool := Scalar.isPositive f.confidence

omit [Scalar K] in
def body (f : Finding K) : List (String × Value K) :=
  [("confidence", .real f.confidence),
    ("techniques", Value.ofSet f.techniques),
    ("evidence", Value.ofMap f.evidence)]

omit [Scalar K] in
def toValue (f : Finding K) : Value K := .object (("detector_name", .text f.name) :: f.body)

end Finding

def readSet? (t : Tree) : Option StringSet := (t.list? Tree.text?).map StringSet.ofList

/-- Read values by name, in which at most so many arrays and objects are open at once. -/
def readEvidence? (levels : Nat) : Tree → Option (StringMap (Value Float))
  | .object members => Value.ofMembers? levels members
  | _ => none

/-- Read a finding. Its evidence stands inside two objects. -/
def Finding.ofTree? (t : Tree) : Option (Finding Float) := do
  match ← t.fields? [["detector_name"], ["confidence"], ["techniques"], ["evidence"]] with
  | [name, confidence, techniques, evidence] =>
      return {
        name := ← required Tree.text? name
        confidence := ← required Tree.float? confidence
        techniques := ← optional .empty readSet? techniques
        evidence := ← optional .empty (readEvidence? (Value.maxLevels - 2)) evidence }
  | _ => none

/-- The fault of one detector, which goes no further than this detector. -/
structure Failure where
  detector : Detector
  message : String
deriving DecidableEq

namespace Failure

def display (f : Failure) : String := "detector " ++ f.detector.name ++ " failed: " ++ f.message

def toValue {K : Type} (f : Failure) : Value K :=
  .object [("detector", .text f.detector.name), ("message", .text f.message)]

def ofTree? (t : Tree) : Option Failure := do
  match ← t.fields? [["detector"], ["message"]] with
  | [detector, message] =>
      return {
        detector := ← required Detector.ofTree? detector
        message := ← required Tree.text? message }
  | _ => none

end Failure

/-- What came of running a detector: it had what it needs and found something or nothing, it
lacked what it needs, for a reason that may be worth telling, or it failed. -/
inductive Outcome (K : Type)
  | ran (finding : Finding K)
  | unavailable (detector : Detector) (reason : Option String)
  | failed (failure : Failure)

def Outcome.finding? {K : Type} : Outcome K → Option (Finding K)
  | .ran finding => some finding
  | _ => none

end Honeypot
