import Honeypot.Analysis

/-!
The analysis with its detectors running side by side.

Each detector is a task, and the tasks go by the numbers in which they were set up. A schedule is
any sequence of events in which tasks are started, finished or lost. The verdict is drawn up when
no task is left to be waited for, from the results in the order in which the tasks were set up.
-/

namespace Honeypot

inductive Event
  | started (task : Nat)
  | finished (task : Nat)
  | lost (task : Nat) (message : String)
deriving DecidableEq

abbrev Schedule := List Event

/-- How far a task has come, with what it has to do or what came of it. It is started once,
finished when it runs, and can be lost before that. -/
inductive Task (K : Type)
  | waiting (work : Unit → Outcome K)
  | running (work : Unit → Outcome K)
  | done (outcome : Outcome K)
  | lost (message : String)

namespace Task

variable {K : Type}

def start : Task K → Task K
  | .waiting work => .running work
  | task => task

def finish : Task K → Task K
  | .running work => .done (work ())
  | task => task

def lose (message : String) : Task K → Task K
  | .waiting _ | .running _ => .lost message
  | task => task

/-- The outcome of a task or why there is none, once there is nothing to wait for. -/
def result? : Task K → Option (Except String (Outcome K))
  | .done outcome => some (.ok outcome)
  | .lost message => some (.error message)
  | .waiting _ | .running _ => none

end Task

abbrev Board (K : Type) := List (Task K)

namespace Board

variable {K : Type}

def step (b : Board K) : Event → Board K
  | .started n => b.modify n Task.start
  | .finished n => b.modify n Task.finish
  | .lost n message => b.modify n (Task.lose message)

def join? (b : Board K) : Option (List (Except String (Outcome K))) := b.mapM Task.result?

end Board

/-- The outcome of the task of a detector. A task that was lost counts as a failure. -/
def Outcome.ofTask {K : Type} (d : Detector) : Except String (Outcome K) → Outcome K
  | .ok outcome => outcome
  | .error message => .failed ⟨d, "task failed: " ++ message⟩

def Outcomes.ofList {K : Type} (entries : List (Detector × Outcome K)) : Outcomes K := fun d =>
  entries.reverse.lookup d

namespace Config

variable {K : Type} [Scalar K]

def jobs (c : Config K) (dossier : Dossier) : List (Detector × (Unit → Outcome K)) := [
  (.bytecode, fun _ => c.inspectBytecode dossier.bytecode),
  (.functions, fun _ => c.inspectAbi dossier.abi),
  (.source, fun _ => c.inspectSource dossier.source),
  (.history, fun _ => c.inspectHistory dossier.history dossier.address)]

/-- The tasks after a run. None is set up for a dossier that is not valid. -/
def boardAfter (c : Config K) (dossier : Dossier) (schedule : Schedule) : Board K :=
  match dossier.validate with
  | .error _ => []
  | .ok () => schedule.foldl Board.step ((c.jobs dossier).unzip.2.map .waiting)

/-- Analyse a contract by a schedule. There is no result while a task is to be waited for. -/
def analyzeBy (c : Config K) (schedule : Schedule) (dossier : Dossier) (external : External K) :
    Option (Except Fault (Verdict K)) :=
  match dossier.validate with
  | .error fault => some (.error fault)
  | .ok () =>
      (c.boardAfter dossier schedule).join?.map fun results =>
        let entries := ((c.jobs dossier).unzip.1.zip results).map fun entry =>
          (entry.1, Outcome.ofTask entry.1 entry.2)
        .ok (c.aggregate (merge (Outcomes.ofList entries) external))

end Config

end Honeypot
