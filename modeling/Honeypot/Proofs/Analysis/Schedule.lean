import Honeypot.Analysis.Schedule
import Honeypot.Config.Standard
import Honeypot.Proofs.Analysis.Unknown
import Honeypot.Proofs.Traverse

/-!
The order in which the detectors run makes no difference.

An event concerns one task, so the tasks can be followed one by one. What a task comes to is fixed
when it is set up, and its place among the results is the place in which it was set up.
-/

namespace Honeypot

namespace Schedule

/-- A task is started, and finished at some time after that. -/
def Completes (schedule : Schedule) (n : Nat) : Prop := [.started n, .finished n].Sublist schedule

instance (schedule : Schedule) (n : Nat) : Decidable (schedule.Completes n) :=
  inferInstanceAs (Decidable (List.Sublist _ _))

def Complete (schedule : Schedule) (count : Nat) : Prop := ∀ n < count, schedule.Completes n

instance (schedule : Schedule) (count : Nat) : Decidable (schedule.Complete count) :=
  inferInstanceAs (Decidable (∀ n < count, schedule.Completes n))

def Lossless (schedule : Schedule) : Prop := ∀ n message, .lost n message ∉ schedule

theorem Lossless.tail {e : Event} {rest : Schedule} (h : Lossless (e :: rest)) : Lossless rest :=
  fun n message hmem => h n message (List.mem_cons_of_mem e hmem)

theorem completes_cons_started (rest : Schedule) (n : Nat) :
    Completes (.started n :: rest) n ↔ .finished n ∈ rest := by
  rw [Completes, List.cons_sublist_cons, List.singleton_sublist]

theorem completes_cons_of_ne {e : Event} {rest : Schedule} {n : Nat} (h : e ≠ .started n) :
    Completes (e :: rest) n ↔ Completes rest n := by
  rw [Completes, List.cons_sublist_cons',
    or_iff_left fun hstarted => h hstarted.1.symm, Completes]

/-- So many tasks are started in their order, and the tasks of a list are finished then. -/
def finishing (count : Nat) (order : List Nat) : Schedule :=
  (List.range count).map .started ++ order.map .finished

theorem complete_finishing {count : Nat} {order : List Nat} (h : order.Perm (List.range count)) :
    (finishing count order).Complete count := by
  intro n hn
  have hstarted : Event.started n ∈ (List.range count).map Event.started :=
    List.mem_map_of_mem (List.mem_range.mpr hn)
  have hfinished : Event.finished n ∈ order.map Event.finished :=
    List.mem_map_of_mem (h.mem_iff.mpr (List.mem_range.mpr hn))
  exact (List.singleton_sublist.mpr hstarted).append (List.singleton_sublist.mpr hfinished)

theorem lossless_finishing (count : Nat) (order : List Nat) :
    (finishing count order).Lossless := by
  intro n message
  simp [finishing]

end Schedule

variable {K : Type}

namespace Task

def next (n : Nat) (task : Task K) : Event → Task K
  | .started m => if m = n then task.start else task
  | .finished m => if m = n then task.finish else task
  | .lost m message => if m = n then task.lose message else task

def after (n : Nat) (schedule : Schedule) (task : Task K) : Task K := schedule.foldl (next n) task

theorem after_cons (n : Nat) (e : Event) (rest : Schedule) (task : Task K) :
    after n (e :: rest) task = after n rest (next n task e) := rfl

theorem next_done (n : Nat) (outcome : Outcome K) (e : Event) :
    next n (.done outcome) e = .done outcome := by
  cases e <;> exact ite_self _

theorem after_done (n : Nat) (schedule : Schedule) (outcome : Outcome K) :
    after n schedule (.done outcome) = .done outcome := by
  induction schedule with
  | nil => rfl
  | cons e rest ih =>
      rw [after_cons, next_done, ih]

theorem result?_after_running (n : Nat) {schedule : Schedule} (h : schedule.Lossless)
    (work : Unit → Outcome K) : (after n schedule (.running work)).result? =
      if .finished n ∈ schedule then some (.ok (work ())) else none := by
  induction schedule with
  | nil => rfl
  | cons e rest ih =>
      cases e with
      | started m =>
          have hnext : next n (.running work) (.started m) = .running work := ite_self _
          rw [after_cons, hnext, ih h.tail]
          simp
      | finished m =>
          by_cases hm : m = n
          · have hnext : next n (.running work) (.finished m) = .done (work ()) := if_pos hm
            rw [after_cons, hnext, after_done, hm]
            simp [result?]
          · have hnext : next n (.running work) (.finished m) = .running work := if_neg hm
            rw [after_cons, hnext, ih h.tail]
            simp [Ne.symm hm]
      | lost m message => exact absurd List.mem_cons_self (h m message)

theorem result?_after_waiting (n : Nat) {schedule : Schedule} (h : schedule.Lossless)
    (work : Unit → Outcome K) : (after n schedule (.waiting work)).result? =
      if schedule.Completes n then some (.ok (work ())) else none := by
  -- A task waits, whatever else goes on, up to its own start.
  induction schedule with
  | nil => rfl
  | cons e rest ih =>
      cases e with
      | started m =>
          by_cases hm : m = n
          · have hnext : next n (.waiting work) (.started m) = .running work := if_pos hm
            rw [after_cons, hnext, result?_after_running n h.tail, hm]
            simp only [Schedule.completes_cons_started]
          · have hnext : next n (.waiting work) (.started m) = .waiting work := if_neg hm
            have hne : Event.started m ≠ .started n := fun heq => hm (Event.started.inj heq)
            rw [after_cons, hnext, ih h.tail]
            simp only [Schedule.completes_cons_of_ne hne]
      | finished m =>
          have hnext : next n (.waiting work) (.finished m) = .waiting work := ite_self _
          have hne : Event.finished m ≠ .started n := nofun
          rw [after_cons, hnext, ih h.tail]
          simp only [Schedule.completes_cons_of_ne hne]
      | lost m message => exact absurd List.mem_cons_self (h m message)

end Task

namespace Board

theorem getElem?_step (b : Board K) (e : Event) (n : Nat) :
    (b.step e)[n]? = b[n]?.map fun task => task.next n e := by
  cases e with
  | started | finished | lost => exact List.getElem?_modify ..

theorem getElem?_foldl_step (b : Board K) (schedule : Schedule) (n : Nat) :
    (schedule.foldl step b)[n]? = b[n]?.map (Task.after n schedule) := by
  induction schedule generalizing b with
  | nil => exact (congrFun Option.map_id b[n]?).symm
  | cons e rest ih =>
      rw [List.foldl_cons, ih, getElem?_step, Option.map_map]
      rfl

variable {schedule : Schedule} (h : schedule.Lossless) (works : List (Unit → Outcome K))

include h

theorem map_result?_foldl_step : (schedule.foldl step (works.map .waiting)).map Task.result? =
    works.mapIdx fun n work => if schedule.Completes n then some (.ok (work ())) else none := by
  apply List.ext_getElem?
  intro n
  rw [List.getElem?_map, getElem?_foldl_step, List.getElem?_map, List.getElem?_mapIdx]
  cases works[n]? with
  | none => rfl
  | some work => exact congrArg some (Task.result?_after_waiting n h work)

theorem join?_of_complete (hcomplete : schedule.Complete works.length) :
    join? (schedule.foldl step (works.map .waiting)) =
      some (works.map fun work => .ok (work ())) := by
  rw [join?, mapM_eq_some_iff, map_result?_foldl_step h, List.map_map]
  apply List.ext_getElem?
  intro n
  rw [List.getElem?_mapIdx, List.getElem?_map]
  cases hn : works[n]? with
  | none => rfl
  | some work =>
      obtain ⟨hlt, -⟩ := List.getElem?_eq_some_iff.mp hn
      rw [Option.map_some, if_pos (hcomplete n hlt)]
      rfl

theorem join?_of_not_complete (hcomplete : ¬schedule.Complete works.length) :
    join? (schedule.foldl step (works.map .waiting)) = none := by
  obtain ⟨n, hlt, hn⟩ : ∃ n < works.length, ¬schedule.Completes n := by
    simpa [Schedule.Complete] using hcomplete
  rw [Option.eq_none_iff_forall_ne_some]
  intro results hresults
  have hmap := mapM_eq_some_iff.mp hresults
  rw [map_result?_foldl_step h] at hmap
  have hat := (congrArg (fun list => list[n]?) hmap).symm
  simp [hlt, hn] at hat

end Board

theorem map_ofTask_zip_unzip (jobs : List (Detector × (Unit → Outcome K))) :
    (jobs.unzip.1.zip (jobs.unzip.2.map fun work => .ok (work ()))).map
        (fun entry => (entry.1, Outcome.ofTask entry.1 entry.2)) =
      jobs.map fun job => (job.1, job.2 ()) := by
  rw [List.unzip_eq_map, List.map_map, List.zip_map', List.map_map]
  rfl

namespace Config

variable [Scalar K] (c : Config K) (dossier : Dossier) (external : External K)

theorem ofList_jobs :
    Outcomes.ofList ((c.jobs dossier).map fun job => (job.1, job.2 ())) = c.inspect dossier := by
  funext d
  cases d <;> rfl

theorem boardAfter_of_chain_ne_zero (hchain : dossier.chain ≠ 0) (schedule : Schedule) :
    c.boardAfter dossier schedule =
      schedule.foldl Board.step ((c.jobs dossier).unzip.2.map .waiting) := by
  simp [boardAfter, Dossier.validate, hchain]

theorem analyzeBy_of_chain_eq_zero (hchain : dossier.chain = 0) (schedule : Schedule) :
    c.analyzeBy schedule dossier external = some (.error .zeroChain) := by
  simp [analyzeBy, Dossier.validate, hchain]

theorem analyzeBy_of_chain_ne_zero (hchain : dossier.chain ≠ 0) (schedule : Schedule) :
    c.analyzeBy schedule dossier external =
      (c.boardAfter dossier schedule).join?.map fun results =>
      .ok (c.aggregate (merge (Outcomes.ofList (((c.jobs dossier).unzip.1.zip results).map
        fun entry => (entry.1, Outcome.ofTask entry.1 entry.2))) external)) := by
  simp only [analyzeBy, Dossier.validate, if_neg hchain]

theorem analyzeBy_of_complete {schedule : Schedule} (hlossless : schedule.Lossless)
    (hcomplete : schedule.Complete Detector.internal.length) :
    c.analyzeBy schedule dossier external = some (c.analyze dossier external) := by
  by_cases hchain : dossier.chain = 0
  · rw [c.analyzeBy_of_chain_eq_zero dossier external hchain,
      c.analyze_of_chain_eq_zero dossier external hchain]
  · have hjoin := Board.join?_of_complete hlossless (c.jobs dossier).unzip.2 hcomplete
    rw [c.analyzeBy_of_chain_ne_zero dossier external hchain,
      c.boardAfter_of_chain_ne_zero dossier hchain, hjoin, Option.map_some, map_ofTask_zip_unzip,
      ofList_jobs, c.analyze_of_chain_ne_zero dossier external hchain]

/-- The schedule makes no difference: when all detectors have completed, with none of them lost,
they come to what they come to one after the other, whatever the order in which they finish.
Before that there is no result. A contract on the chain with the number zero is refused, and no
task is set up. -/
theorem schedule_makes_no_difference :
    (∀ schedule : Schedule, schedule.Lossless → schedule.Complete Detector.internal.length →
      c.analyzeBy schedule dossier external = some (c.analyze dossier external)) ∧
    (∀ order : List Nat, order.Perm (List.range Detector.internal.length) →
      c.analyzeBy (.finishing Detector.internal.length order) dossier external =
        some (c.analyze dossier external)) ∧
    (dossier.chain ≠ 0 → ∀ schedule : Schedule, schedule.Lossless →
      ¬schedule.Complete Detector.internal.length →
        c.analyzeBy schedule dossier external = none) ∧
    (dossier.chain = 0 → c.analyze dossier external = .error .zeroChain ∧
      Fault.zeroChain.code = "INPUT_INVALID" ∧
      ∀ schedule, c.boardAfter dossier schedule = [] ∧
        c.analyzeBy schedule dossier external = some (.error .zeroChain)) := by
  refine ⟨?_, ?_, ?_, ?_⟩
  · intro schedule hlossless hcomplete
    exact c.analyzeBy_of_complete dossier external hlossless hcomplete
  · intro order horder
    apply analyzeBy_of_complete
    · exact Schedule.lossless_finishing _ order
    · exact Schedule.complete_finishing horder
  · intro hchain schedule hlossless hcomplete
    have hjoin := Board.join?_of_not_complete hlossless (c.jobs dossier).unzip.2 hcomplete
    rw [c.analyzeBy_of_chain_ne_zero dossier external hchain,
      c.boardAfter_of_chain_ne_zero dossier hchain, hjoin, Option.map_none]
  · intro hchain
    refine ⟨c.analyze_of_chain_eq_zero dossier external hchain, rfl, ?_⟩
    intro schedule
    refine ⟨?_, c.analyzeBy_of_chain_eq_zero dossier external hchain schedule⟩
    simp [boardAfter, Dossier.validate, hchain]

def interleaved : Schedule :=
  [.started 2, .started 0, .finished 2, .started 3,
    .finished 0, .started 1, .finished 1, .finished 3]

theorem schedule_makes_no_difference_interleaved :
    interleaved.Lossless ∧ interleaved.Complete 4 ∧ ¬Schedule.Complete interleaved.dropLast 4 ∧
    (standard : Config Rat).analyzeBy interleaved (unassigned 1) .none =
      some ((standard : Config Rat).analyze (unassigned 1) .none) ∧
    (standard : Config Rat).analyzeBy (.finishing 4 [3, 2, 1, 0]) (unassigned 1) .none =
      some ((standard : Config Rat).analyze (unassigned 1) .none) ∧
    (standard : Config Rat).analyzeBy interleaved.dropLast (unassigned 1) .none = none ∧
    (standard : Config Rat).analyzeBy interleaved (unassigned 0) .none =
      some (.error .zeroChain) := by
  have hlossless : interleaved.Lossless := by
    intro n message
    simp [interleaved]
  have hdropped : Schedule.Lossless interleaved.dropLast :=
    fun n message hmem => hlossless n message (List.dropLast_subset _ hmem)
  have hcomplete : interleaved.Complete 4 := by decide
  have hnot : ¬Schedule.Complete interleaved.dropLast 4 := by decide
  obtain ⟨hall, horders, hnone, -⟩ :=
    (standard : Config Rat).schedule_makes_no_difference (unassigned 1) .none
  obtain ⟨-, -, -, hzero⟩ :=
    (standard : Config Rat).schedule_makes_no_difference (unassigned 0) .none
  obtain ⟨-, -, hrefused⟩ := hzero rfl
  exact ⟨hlossless, hcomplete, hnot, hall _ hlossless hcomplete, horders _ (by decide),
    hnone (by decide) _ hdropped hnot, (hrefused _).2⟩

end Config

end Honeypot
