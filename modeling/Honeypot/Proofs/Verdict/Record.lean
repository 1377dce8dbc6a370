import Honeypot.Config.Standard
import Honeypot.Proofs.Number.Clamp
import Honeypot.Proofs.Verdict.Dependence

namespace Honeypot

/-- The outcomes that a verdict tells of: each detector with a finding under its name ran, and
came to this finding. -/
def Verdict.record {K : Type} (v : Verdict K) : Outcomes K := fun d =>
  (v.findings.find? d.name).map .ran

theorem Verdict.omissions_record {K : Type} (v : Verdict K) : v.record.omissions = [] := by
  rw [Outcomes.omissions, List.filterMap_eq_nil_iff]
  intro d _
  rw [Outcomes.omission?, record]
  cases v.findings.find? d.name <;> rfl

namespace Config

variable (c : Config Float) (outcomes : Outcomes Float)

theorem record_aggregate_eq_ran_iff {d : Detector} {f : Finding Float} :
    (c.aggregate outcomes).record d = some (.ran f) ↔ outcomes.finding? d = some f := by
  simp [Verdict.record, find?_findings_aggregate]

/-- What is recorded is in range already, so it is found again as it is. -/
theorem finding?_record_aggregate (d : Detector) :
    (c.aggregate outcomes).record.finding? d = outcomes.finding? d := by
  have hsettled {f : Finding Float} (hf : outcomes.finding? d = some f) :
      { f with name := d.name, confidence := Scalar.clamp f.confidence } = f := by
    obtain ⟨g, -, rfl⟩ := Outcomes.finding?_eq_some_iff.mp hf
    simp [Scalar.clamp_clamp]
  ext f
  rw [Outcomes.finding?_eq_some_iff]
  constructor
  · rintro ⟨g, hg, rfl⟩
    have hfinding := (c.record_aggregate_eq_ran_iff outcomes).mp hg
    rw [hsettled hfinding]
    exact hfinding
  · intro hf
    exact ⟨f, (c.record_aggregate_eq_ran_iff outcomes).mpr hf, (hsettled hf).symm⟩

theorem findings_record_aggregate :
    (c.aggregate outcomes).record.findings = outcomes.findings := by
  simp only [Outcomes.findings, finding?_record_aggregate]

theorem ran_record_aggregate_iff {d : Detector} :
    (c.aggregate outcomes).record.Ran d ↔ outcomes.Ran d := by
  rw [← Outcomes.exists_finding?_iff, ← Outcomes.exists_finding?_iff, finding?_record_aggregate]

/-- A verdict on outcomes among which there is a finding is drawn up again from the findings that
it tells, with nothing left out that was told of them, and nothing to tell of other detectors. -/
theorem aggregate_record_aggregate (h : ∃ d, outcomes.Ran d) :
    c.aggregate (c.aggregate outcomes).record =
      { c.aggregate outcomes with omissions := [] } := by
  obtain ⟨d, hd⟩ := h
  have hrecord := (c.ran_record_aggregate_iff outcomes).mpr hd
  have hfindings := c.findings_record_aggregate outcomes
  have hbyName : (c.aggregate outcomes).record.byName = outcomes.byName := by
    rw [Outcomes.byName, Outcomes.byName, hfindings]
  rw [aggregate_of_ran c hrecord, c.overall_congr hfindings, hbyName, Verdict.omissions_record,
    aggregate_of_ran c hd]

def hostile : Outcomes Float
  | .bytecode => some (.ran ⟨"ml", 0.0 / 0.0, StringSet.ofList ["stale"], .empty⟩)
  | .source => some (.ran ⟨"ml", 7.5, StringSet.ofList ["trap"], .empty⟩)
  | .history => some (.failed ⟨.ml, "boom"⟩)
  | .ml => some (.ran ⟨"ml", -1, .empty, .empty⟩)
  | .symbolic => some (.unavailable .bytecode (some "timeout"))
  | .functions => none

theorem aggregate_record_hostile : (∃ d, hostile.Ran d) ∧
    standard.aggregate (standard.aggregate hostile).record =
      { standard.aggregate hostile with omissions := [] } := by
  have hran : ∃ d, hostile.Ran d := ⟨.source, _, rfl⟩
  exact ⟨hran, standard.aggregate_record_aggregate hostile hran⟩

end Config

end Honeypot
