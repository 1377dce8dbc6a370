import Honeypot.Proofs.Analysis.Unknown
import Honeypot.Proofs.Verdict.Dependence

namespace Honeypot

variable {K : Type}

namespace Scorer

/-- What counts as the answer of a scorer. A breakdown counts as a failure of the detector that
the scorer says it is. -/
inductive Answers (s : Scorer K) (dossier : Dossier) : Answer K → Prop
  | finding {f : Finding K} (h : s.run dossier = .done (.ok f)) : Answers s dossier (.ok f)
  | failure {f : Failure} (h : s.run dossier = .done (.error f)) : Answers s dossier (.error f)
  | panicText {text : String} (h : s.run dossier = .panicked (.text text)) :
      Answers s dossier (.error ⟨s.detector, "panic: " ++ text⟩)
  | panicOther (h : s.run dossier = .panicked .other) :
      Answers s dossier (.error ⟨s.detector, "panic: <non-string payload>"⟩)

variable (s : Scorer K) (dossier : Dossier)

theorem answers_ask : s.Answers dossier (s.ask dossier).1 := by
  rw [ask]
  cases h : s.run dossier with
  | done answer =>
      cases answer with
      | ok f => exact .finding h
      | error f => exact .failure h
  | panicked panic =>
      cases panic with
      | text text => exact .panicText h
      | other => exact .panicOther h

variable {s dossier}

theorem Answers.eq_ask {answer : Answer K} (h : s.Answers dossier answer) :
    (s.ask dossier).1 = answer := by
  rw [ask]
  cases h with
  | finding h | failure h | panicText h | panicOther h =>
      rw [h]
      rfl

end Scorer

namespace External

/-- The scorer in the place of an engine that is asked, if there is one. -/
def asked (ml symbolic : Option (Scorer K)) (deep : Bool) : Detector → Option (Scorer K)
  | .ml => ml
  | .symbolic => if deep then symbolic else .none
  | _ => .none

def answer? (e : External K) : Detector → Option (Answer K)
  | .ml => e.ml
  | .symbolic => e.symbolic
  | _ => .none

/-- The scorer in a place fails or breaks down, which is told as a failure. -/
def Faulty (dossier : Dossier) (scorer : Option (Scorer K)) (failure : Failure) : Prop :=
  ∃ s, scorer = some s ∧ s.Answers dossier (.error failure)

/-- A scorer in its place, or nobody in the place of a scorer that fails or breaks down. -/
inductive Spared (dossier : Dossier) : Option (Scorer K) → Option (Scorer K) → Prop
  | kept (scorer : Option (Scorer K)) : Spared dossier scorer scorer
  | leftOut {scorer : Option (Scorer K)} {failure : Failure} (h : Faulty dossier scorer failure) :
      Spared dossier scorer .none

variable (dossier : Dossier) (ml symbolic : Option (Scorer K)) (deep : Bool)

theorem askIfGiven_fst (scorer : Option (Scorer K)) :
    (askIfGiven scorer dossier).1 = scorer.map fun s => (s.ask dossier).1 := by
  cases scorer <;> rfl

theorem answer?_collect (d : Detector) : (collect dossier ml symbolic deep).answer? d =
    (asked ml symbolic deep d).map fun s => (s.ask dossier).1 := by
  cases d with
  | ml => exact askIfGiven_fst dossier ml
  | symbolic => exact askIfGiven_fst dossier (if deep then symbolic else .none)
  | _ => rfl

theorem answer?_eq_error_iff (d : Detector) (failure : Failure) :
    (collect dossier ml symbolic deep).answer? d = some (.error failure) ↔
      Faulty dossier (asked ml symbolic deep d) failure := by
  rw [answer?_collect, Option.map_eq_some_iff]
  refine exists_congr fun s => and_congr_right fun _ => ?_
  constructor
  · intro h
    rw [← h]
    exact s.answers_ask dossier
  · exact Scorer.Answers.eq_ask

theorem Spared.finding_iff {dossier : Dossier} {scorer spared : Option (Scorer K)}
    (h : Spared dossier scorer spared) (f : Finding K) :
    scorer.map (fun s => (s.ask dossier).1) = some (.ok f) ↔
      spared.map (fun s => (s.ask dossier).1) = some (.ok f) := by
  cases h with
  | kept => exact Iff.rfl
  | leftOut h =>
      obtain ⟨s, rfl, hanswer⟩ := h
      rw [Option.map_some, hanswer.eq_ask]
      exact iff_of_false nofun nofun

theorem Spared.asked {dossier : Dossier} {ml symbolic ml' symbolic' : Option (Scorer K)}
    (hml : Spared dossier ml ml') (hsymbolic : Spared dossier symbolic symbolic') (deep : Bool)
    (d : Detector) :
    Spared dossier (External.asked ml symbolic deep d) (External.asked ml' symbolic' deep d) := by
  cases d with
  | ml => exact hml
  | symbolic =>
      cases deep with
      | true => exact hsymbolic
      | false => exact .kept .none
  | _ => exact .kept .none

def places : List Detector := [.ml, .symbolic]

end External

namespace Config

open External

variable [Scalar K] (c : Config K) (dossier : Dossier)

theorem outcomesOf_of_mem_places (external : External K) {d : Detector} (hd : d ∈ places) :
    c.outcomesOf dossier external d = (external.answer? d).map outcome := by
  simp only [places, List.mem_cons, List.not_mem_nil, or_false] at hd
  rcases hd with rfl | rfl
  · exact Option.or_none
  · exact Option.or_none

theorem outcomesOf_of_not_mem_places (external external' : External K) {d : Detector}
    (hd : d ∉ places) :
    c.outcomesOf dossier external d = c.outcomesOf dossier external' d := by
  cases d with
  | ml | symbolic => exact absurd (by decide) hd
  | _ => rfl

omit [Scalar K] in
theorem map_outcome_eq_ran_iff (answer : Option (Answer K)) (f : Finding K) :
    answer.map outcome = some (.ran f) ↔ answer = some (.ok f) := by
  rcases answer with _ | ⟨failure⟩ | finding <;> simp [outcome]

theorem sameFindings_outcomesOf {external external' : External K}
    (h : ∀ d ∈ places, ∀ f,
      external.answer? d = some (.ok f) ↔ external'.answer? d = some (.ok f)) :
    (c.outcomesOf dossier external).SameFindings (c.outcomesOf dossier external') := by
  intro d f
  by_cases hd : d ∈ places
  · rw [c.outcomesOf_of_mem_places dossier external hd,
      c.outcomesOf_of_mem_places dossier external' hd, map_outcome_eq_ran_iff,
      map_outcome_eq_ran_iff]
    exact h d hd f
  · rw [c.outcomesOf_of_not_mem_places dossier external external' hd]

theorem omission?_eq_of_failed (external : External K) {d : Detector} (hd : d ∈ places)
    {failure : Failure} (h : external.answer? d = some (.error failure)) :
    (c.outcomesOf dossier external).omission? d = some ⟨d.name, failure.message⟩ := by
  rw [Outcomes.omission?, c.outcomesOf_of_mem_places dossier external hd, h]
  rfl

theorem omission?_eq_none (external : External K) {d : Detector} (hd : d ∈ places)
    (h : ∀ failure, external.answer? d ≠ some (.error failure)) :
    (c.outcomesOf dossier external).omission? d = .none := by
  rw [Outcomes.omission?, c.outcomesOf_of_mem_places dossier external hd]
  cases hanswer : external.answer? d with
  | none => rfl
  | some answer =>
      cases answer with
      | ok f => rfl
      | error failure => exact absurd hanswer (h failure)

/-- A verdict contains the faults of the scorers that it rests on. Under the name of an engine it
tells the fault of the scorer that was asked in this place, once, and nothing where there was
none. The rest of it is as if nobody had stood in the places of faulty scorers. -/
structure ContainsFaults (ml symbolic : Option (Scorer K)) (deep : Bool) (v : Verdict K) :
    Prop where
  told : ∀ d ∈ places, ∀ failure, Faulty dossier (asked ml symbolic deep d) failure →
    v.omissions.filter (fun o => o.detector = d.name) = [⟨d.name, failure.message⟩]
  untold : ∀ d ∈ places, (∀ failure, ¬Faulty dossier (asked ml symbolic deep d) failure) →
    v.omissions.filter (fun o => o.detector = d.name) = []
  spared : ∀ ml' symbolic', Spared dossier ml ml' → Spared dossier symbolic symbolic' →
    ∃ w, c.analyze dossier (collect dossier ml' symbolic' deep) = .ok w ∧ v.SameJudgement w

theorem containsFaults_aggregate (ml symbolic : Option (Scorer K)) (deep : Bool)
    (h : dossier.chain ≠ 0) : c.ContainsFaults dossier ml symbolic deep
      (c.aggregate (c.outcomesOf dossier (collect dossier ml symbolic deep))) where
  told := by
    intro d hd failure hfaulty
    have hanswer := (answer?_eq_error_iff dossier ml symbolic deep d failure).mpr hfaulty
    rw [filter_omissions_aggregate, c.omission?_eq_of_failed dossier _ hd hanswer]
    rfl
  untold := by
    intro d hd hfaulty
    rw [filter_omissions_aggregate, c.omission?_eq_none dossier _ hd]
    · rfl
    · intro failure hanswer
      exact hfaulty failure ((answer?_eq_error_iff dossier ml symbolic deep d failure).mp hanswer)
  spared := by
    intro ml' symbolic' hml hsymbolic
    refine ⟨_, c.analyze_of_chain_ne_zero dossier _ h, c.sameJudgement_aggregate ?_⟩
    -- A verdict depends on findings only, and a faulty scorer has none to lose.
    apply c.sameFindings_outcomesOf
    intro d hd f
    rw [answer?_collect, answer?_collect]
    exact (hml.asked hsymbolic deep d).finding_iff f

/-- Whatever the scorers do, there is an answer in the place of each one that is asked, the
symbolic engine is asked for deep analyses only, and the analysis comes to a verdict that contains
their faults. -/
theorem scorer_faults_contained (ml symbolic : Option (Scorer K)) (deep : Bool)
    (h : dossier.chain ≠ 0) :
    ((collect dossier ml symbolic deep).ml ≠ .none ↔ ml ≠ .none) ∧
    ((collect dossier ml symbolic deep).symbolic ≠ .none ↔ symbolic ≠ .none ∧ deep = true) ∧
    (deep = false → ∀ other, gather dossier ml symbolic deep = gather dossier ml other deep) ∧
    (∀ d s, asked ml symbolic deep d = some s → ∃ answer,
      (collect dossier ml symbolic deep).answer? d = some answer ∧ s.Answers dossier answer) ∧
    ∃ v, c.analyze dossier (collect dossier ml symbolic deep) = .ok v ∧
      c.ContainsFaults dossier ml symbolic deep v := by
  have hanswer := answer?_collect dossier ml symbolic deep
  refine ⟨?_, ?_, ?_, ?_, _, c.analyze_of_chain_ne_zero dossier _ h,
    c.containsFaults_aggregate dossier ml symbolic deep h⟩
  · rw [show (collect dossier ml symbolic deep).ml = _ from hanswer .ml, ne_eq,
      Option.map_eq_none_iff]
    rfl
  · rw [show (collect dossier ml symbolic deep).symbolic = _ from hanswer .symbolic, ne_eq,
      Option.map_eq_none_iff]
    cases deep <;> simp [asked]
  · rintro rfl other
    rfl
  · intro d s hs
    refine ⟨(s.ask dossier).1, ?_, s.answers_ask dossier⟩
    rw [hanswer, hs, Option.map_some]

def brokenScorer : Scorer Float := .panicking .symbolic (.text "model file missing")

/-- A scorer that fails, and says that it is a detector of this library. -/
def failingScorer : Scorer Float := .failing .bytecode "solver timeout"

theorem scorer_faults_contained_broken :
    (Dossier.blank ⟨7⟩ 1).chain ≠ 0 ∧
    ∃ v, (standard : Config Float).analyze (Dossier.blank ⟨7⟩ 1)
        (collect (Dossier.blank ⟨7⟩ 1) (some brokenScorer) (some failingScorer) true) = .ok v ∧
      v.omissions.filter (fun o => o.detector = "ml") =
        [⟨"ml", "panic: model file missing"⟩] ∧
      v.omissions.filter (fun o => o.detector = "symbolic") =
        [⟨"symbolic", "solver timeout"⟩] := by
  have hchain : (Dossier.blank ⟨7⟩ 1).chain ≠ 0 := by decide
  have hpanic : brokenScorer.Answers (Dossier.blank ⟨7⟩ 1)
      (.error ⟨brokenScorer.detector, "panic: " ++ "model file missing"⟩) := .panicText rfl
  have hfailure : failingScorer.Answers (Dossier.blank ⟨7⟩ 1)
      (.error ⟨.bytecode, "solver timeout"⟩) := .failure rfl
  obtain ⟨-, -, -, -, v, hv, hcontains⟩ := scorer_faults_contained (standard : Config Float)
    (Dossier.blank ⟨7⟩ 1) (some brokenScorer) (some failingScorer) true hchain
  have hml := hcontains.told .ml (by decide) _ ⟨brokenScorer, rfl, hpanic⟩
  have hsymbolic := hcontains.told .symbolic (by decide) _ ⟨failingScorer, rfl, hfailure⟩
  exact ⟨hchain, v, hv, hml, hsymbolic⟩

end Config

end Honeypot
