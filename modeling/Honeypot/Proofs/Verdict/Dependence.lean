import Honeypot.Config.Standard
import Honeypot.Proofs.Verdict.Outcomes

namespace Honeypot

variable {K : Type}

/-- Two verdicts say the same, except for their omissions. -/
structure Verdict.SameJudgement (v w : Verdict K) : Prop where
  confidence : v.confidence = w.confidence
  risk : v.risk = w.risk
  techniques : v.techniques = w.techniques
  findings : v.findings = w.findings

/-- The same detectors ran, and came to the same findings. What the others came to is left
open. -/
def Outcomes.SameFindings (outcomes outcomes' : Outcomes K) : Prop :=
  ∀ d f, outcomes d = some (.ran f) ↔ outcomes' d = some (.ran f)

/-- What came of a detector, and the same told in another way. A detector that tells no reason can
be left out, and a reason can be told as a failure. -/
inductive Outcome.Retold : Option (Outcome K) → Option (Outcome K) → Prop
  | same (outcome : Option (Outcome K)) : Retold outcome outcome
  | leaveOut (d : Detector) : Retold (some (.unavailable d none)) none
  | excuse (failure : Failure) (d : Detector) :
      Retold (some (.failed failure)) (some (.unavailable d (some failure.message)))
  | blame (failure : Failure) (d : Detector) :
      Retold (some (.unavailable d (some failure.message))) (some (.failed failure))

theorem Outcome.Retold.ran_iff {first second : Option (Outcome K)} (h : Retold first second)
    (f : Finding K) : first = some (.ran f) ↔ second = some (.ran f) := by
  cases h with
  | same => exact Iff.rfl
  | leaveOut | excuse | blame => exact iff_of_false nofun nofun

namespace Outcomes

variable {outcomes outcomes' : Outcomes K}

theorem omissions_of_retold (h : ∀ d, Outcome.Retold (outcomes d) (outcomes' d)) :
    outcomes.omissions = outcomes'.omissions := by
  have homission : outcomes.omission? = outcomes'.omission? := by
    funext d
    have hd := h d
    unfold omission?
    -- The relation is one between values, so the two lookups are taken as values first.
    revert hd
    generalize outcomes d = first
    generalize outcomes' d = second
    intro hd
    cases hd with
    | same | leaveOut | excuse | blame => rfl
  rw [omissions, omissions, homission]

variable [Scalar K]

theorem findings_congr (h : outcomes.SameFindings outcomes') :
    outcomes.findings = outcomes'.findings := by
  have hfinding : outcomes.finding? = outcomes'.finding? := by
    funext d
    ext f
    rw [finding?_eq_some_iff, finding?_eq_some_iff]
    exact exists_congr fun g => and_congr_left fun _ => h d g
  rw [findings, findings, hfinding]

end Outcomes

namespace Config

variable [Scalar K] (c : Config K) {outcomes outcomes' : Outcomes K}

theorem overall_congr (h : outcomes.findings = outcomes'.findings) :
    c.overall outcomes = c.overall outcomes' := by
  have hscores : outcomes.scores = outcomes'.scores := by
    funext e
    rw [Outcomes.scores, Outcomes.scores, h]
  rw [overall, overall, Outcomes.present, Outcomes.present, hscores]

theorem sameJudgement_aggregate (h : outcomes.SameFindings outcomes') :
    (c.aggregate outcomes).SameJudgement (c.aggregate outcomes') := by
  have hfindings := Outcomes.findings_congr h
  have hoverall := c.overall_congr hfindings
  unfold aggregate
  simp only [hfindings, hoverall]
  split <;> exact ⟨rfl, rfl, rfl, rfl⟩

theorem aggregate_congr (hfindings : outcomes.SameFindings outcomes')
    (homissions : outcomes.omissions = outcomes'.omissions) :
    c.aggregate outcomes = c.aggregate outcomes' := by
  have hlist := Outcomes.findings_congr hfindings
  have hoverall := c.overall_congr hlist
  unfold aggregate
  rw [hlist, hoverall, homissions]

/-- Only the findings decide: outcomes with the same findings are judged the same, whatever else
came of the other detectors. A verdict does not change at all where what came of the other
detectors is told in another way. -/
theorem only_findings_decide (outcomes outcomes' : Outcomes K) :
    (outcomes.SameFindings outcomes' →
      (c.aggregate outcomes).SameJudgement (c.aggregate outcomes')) ∧
    ((∀ d, Outcome.Retold (outcomes d) (outcomes' d)) →
      c.aggregate outcomes = c.aggregate outcomes') := by
  constructor
  · intro h
    exact c.sameJudgement_aggregate h
  · intro h
    exact c.aggregate_congr (fun d => (h d).ran_iff) (Outcomes.omissions_of_retold h)

def engineAlone (source functions : Option (Outcome Float)) : Outcomes Float
  | .ml => some (.ran
      { name := "source_pattern", confidence := 7.5, techniques := .empty, evidence := .empty })
  | .source => source
  | .functions => functions
  | _ => none

theorem only_findings_decide_engineAlone :
    Outcomes.SameFindings (engineAlone (some (.failed ⟨.ml, "boom"⟩)) none)
      (engineAlone none none) ∧
    (standard.aggregate (engineAlone (some (.failed ⟨.ml, "boom"⟩)) none)).SameJudgement
      (standard.aggregate (engineAlone none none)) ∧
    standard.aggregate
        (engineAlone (some (.failed ⟨.ml, "boom"⟩)) (some (.unavailable .functions none))) =
      standard.aggregate (engineAlone (some (.unavailable .source (some "boom"))) none) := by
  have hsame : Outcomes.SameFindings (engineAlone (some (.failed ⟨.ml, "boom"⟩)) none)
      (engineAlone none none) := by
    intro d f
    cases d with
    | source => exact iff_of_false nofun nofun
    | _ => exact Iff.rfl
  have hretold : ∀ d, Outcome.Retold
      (engineAlone (some (.failed ⟨.ml, "boom"⟩)) (some (.unavailable .functions none)) d)
      (engineAlone (some (.unavailable .source (some "boom"))) none d) := by
    intro d
    cases d with
    | source => exact .excuse ⟨.ml, "boom"⟩ .source
    | functions => exact .leaveOut .functions
    | _ => exact .same _
  exact ⟨hsame, (only_findings_decide standard _ _).1 hsame,
    (only_findings_decide standard _ _).2 hretold⟩

end Config

end Honeypot
