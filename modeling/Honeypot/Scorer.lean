import Honeypot.Contract.Dossier
import Honeypot.Log
import Honeypot.Number.Fixed

namespace Honeypot

variable {K : Type}

/-- What code leaves behind when it breaks down: a text, or something that is none. -/
inductive Panic
  | text (message : String)
  | other
deriving DecidableEq

def Panic.message : Panic → String
  | .text message => "panic: " ++ message
  | .other => "panic: <non-string payload>"

inductive Attempt (α : Type)
  | done (result : α)
  | panicked (panic : Panic)

/-- Turn a breakdown of a detector into its failure, and tell the log. -/
def isolate (d : Detector) : Attempt (Outcome K) → Outcome K × List LogLine
  | .done outcome => (outcome, [])
  | .panicked panic =>
      (.failed ⟨d, panic.message⟩,
        [.warn ("💥 Detector " ++ d.name ++ " panicked: " ++ panic.message)])

/-- What a scorer answers: a finding, or a failure. -/
abbrev Answer (K : Type) := Except Failure (Finding K)

/-- A scorer: the detector that it says it is, and what it does with a dossier. -/
structure Scorer (K : Type) where
  detector : Detector
  run : Dossier → Attempt (Answer K)

namespace Scorer

def constant (d : Detector) (answer : Answer K) : Scorer K := ⟨d, fun _ => .done answer⟩

def fixed [Scalar K] (d : Detector) (confidence : K) (techniques : List String) : Scorer K :=
  constant d (.ok (techniques.foldl Finding.withTechnique (Finding.of d confidence)))

def failing (d : Detector) (message : String) : Scorer K := constant d (.error ⟨d, message⟩)

def panicking (d : Detector) (panic : Panic) : Scorer K := ⟨d, fun _ => .panicked panic⟩

/-- Ask a scorer. A breakdown counts as a failure of the detector that the scorer says it is. -/
def ask (s : Scorer K) (dossier : Dossier) : Answer K × List LogLine :=
  let attempt : Attempt (Outcome K) :=
    match s.run dossier with
    | .done (.ok finding) => .done (.ran finding)
    | .done (.error failure) => .done (.failed failure)
    | .panicked panic => .panicked panic
  let (outcome, lines) := isolate s.detector attempt
  match outcome with
  | .ran finding => (.ok finding, lines)
  | .failed failure => (.error failure, lines ++ [.warn ("⚠️ " ++ failure.display)])
  | .unavailable _ reason => (.error ⟨s.detector, reason.getD "unavailable"⟩, lines)

end Scorer

/-- The answers of the two external engines. One that was not asked has none. -/
structure External (K : Type) where
  ml : Option (Answer K)
  symbolic : Option (Answer K)

namespace External

def none : External K := ⟨.none, .none⟩

def outcome : Answer K → Outcome K
  | .ok finding => .ran finding
  | .error failure => .failed failure

/-- The outcomes, under the names of the places that the answers stand in. -/
def outcome? (e : External K) : Detector → Option (Outcome K)
  | .ml => e.ml.map outcome
  | .symbolic => e.symbolic.map outcome
  | _ => .none

def outcomes (e : External K) : List (Detector × Outcome K) :=
  [Detector.ml, Detector.symbolic].filterMap fun d => (e.outcome? d).map fun o => (d, o)

def askIfGiven (scorer : Option (Scorer K)) (dossier : Dossier) :
    Option (Answer K) × List LogLine :=
  match scorer with
  | .none => (.none, [])
  | some s =>
      let (answer, lines) := s.ask dossier
      (some answer, lines)

/-- Ask the scorers, with what they leave in the log. The symbolic engine takes long, and is asked
for deep analyses only. -/
def gather (dossier : Dossier) (ml symbolic : Option (Scorer K)) (deep : Bool) :
    External K × List LogLine :=
  let (ml, mlLines) := askIfGiven ml dossier
  let (symbolic, symbolicLines) := askIfGiven (if deep then symbolic else .none) dossier
  (⟨ml, symbolic⟩, mlLines ++ symbolicLines)

def collect (dossier : Dossier) (ml symbolic : Option (Scorer K)) (deep : Bool) : External K :=
  (gather dossier ml symbolic deep).1

def describe : Option (Answer Float) → String
  | .none => "skipped"
  | some (.ok finding) => String.ofList (Double.writeHundredths finding.confidence)
  | some (.error _) => "failed"

def log (dossier : Dossier) (ml symbolic : Option (Scorer Float)) (deep : Bool) : List LogLine :=
  let (external, lines) := gather dossier ml symbolic deep
  lines ++ [.info ("🤖 External scorers: ml=" ++ describe external.ml ++ " symbolic=" ++
    describe external.symbolic)]

end External

end Honeypot
