import Honeypot.Proofs.StringMap
import Honeypot.Verdict.Aggregate

namespace Honeypot

namespace Detector

theorem mem_all (d : Detector) : d ∈ all := by
  cases d <;> decide

theorem name_injective {d e : Detector} (h : d.name = e.name) : d = e := by
  revert h
  cases d <;> cases e <;> decide

end Detector

/-- An outcome other than a result tells why there is none, if there is anything to tell. -/
inductive Outcome.Tells {K : Type} : Outcome K → String → Prop
  | unavailable (d : Detector) (reason : String) : Tells (.unavailable d (some reason)) reason
  | failed (failure : Failure) : Tells (.failed failure) failure.message

namespace Outcomes

variable {K : Type}

/-- A detector had what it needs, and came to a result. -/
def Ran (outcomes : Outcomes K) (d : Detector) : Prop := ∃ f, outcomes d = some (.ran f)

theorem omission?_eq_some_iff {outcomes : Outcomes K} {d : Detector} {o : Omission} :
    outcomes.omission? d = some o ↔
      ∃ outcome, outcomes d = some outcome ∧ outcome.Tells o.message ∧ o.detector = d.name := by
  unfold omission?
  constructor
  · intro h
    split at h
    · rename_i failure houtcome
      obtain rfl := Option.some.inj h
      exact ⟨_, houtcome, .failed failure, rfl⟩
    · rename_i other reason houtcome
      obtain rfl := Option.some.inj h
      exact ⟨_, houtcome, .unavailable other reason, rfl⟩
    · cases h
  · rintro ⟨outcome, houtcome, htells, hname⟩
    obtain ⟨detector, message⟩ := o
    obtain rfl : detector = d.name := hname
    rw [houtcome]
    cases htells with
    | unavailable | failed => rfl

theorem filter_omissions (outcomes : Outcomes K) (d : Detector) :
    outcomes.omissions.filter (fun o => o.detector = d.name) = (outcomes.omission? d).toList := by
  have hfilter (e : Detector) : (outcomes.omission? e).filter (fun o => o.detector = d.name) =
      if e = d then outcomes.omission? d else none := by
    cases ho : outcomes.omission? e with
    | none =>
        split
        · rename_i he
          rw [← he, ho, Option.filter_none]
        · rfl
    | some o =>
        obtain ⟨-, -, -, hname⟩ := omission?_eq_some_iff.mp ho
        rw [Option.filter_some]
        by_cases he : e = d
        · rw [if_pos (decide_eq_true (he ▸ hname)), if_pos he, ← he, ho]
        · have hne : o.detector ≠ d.name :=
            fun h => he (Detector.name_injective (hname.symm.trans h))
          rw [if_neg (by simpa using hne), if_neg he]
  rw [omissions, List.filter_filterMap]
  simp only [hfilter]
  generalize outcomes.omission? d = told
  cases told <;> cases d <;> rfl

/-- What the detectors tell, each at most once and in their order. -/
structure Told (outcomes : Outcomes K) (told : List (Detector × String)) : Prop where
  order : (told.map Prod.fst).Sublist Detector.all
  mem_iff : ∀ d reason, (d, reason) ∈ told ↔
    ∃ outcome, outcomes d = some outcome ∧ outcome.Tells reason

theorem exists_told (outcomes : Outcomes K) :
    ∃ told, outcomes.Told told ∧ outcomes.omissions = told.map fun e => ⟨e.1.name, e.2⟩ := by
  refine ⟨Detector.all.filterMap fun d => (outcomes.omission? d).map fun o => (d, o.message),
    ⟨?_, ?_⟩, ?_⟩
  · have hfst : ((Detector.all.filterMap fun d =>
        (outcomes.omission? d).map fun o => (d, o.message)).map Prod.fst) =
          Detector.all.filter fun d => (outcomes.omission? d).isSome := by
      induction Detector.all with
      | nil => rfl
      | cons d rest ih => cases h : outcomes.omission? d <;> simp [h, ih]
    rw [hfst]
    exact List.filter_sublist
  · intro d reason
    rw [List.mem_filterMap]
    constructor
    · rintro ⟨e, -, h⟩
      obtain ⟨o, ho, h⟩ := Option.map_eq_some_iff.mp h
      obtain ⟨rfl, rfl⟩ := Prod.mk.inj h
      obtain ⟨outcome, houtcome, htells, -⟩ := omission?_eq_some_iff.mp ho
      exact ⟨outcome, houtcome, htells⟩
    · rintro ⟨outcome, houtcome, htells⟩
      have ho : outcomes.omission? d = some ⟨d.name, reason⟩ :=
        omission?_eq_some_iff.mpr ⟨outcome, houtcome, htells, rfl⟩
      exact ⟨d, Detector.mem_all d, by rw [ho, Option.map_some]⟩
  · have hname (d : Detector) (o : Omission) (h : outcomes.omission? d = some o) :
        (⟨d.name, o.message⟩ : Omission) = o := by
      obtain ⟨-, -, -, hdetector⟩ := omission?_eq_some_iff.mp h
      rw [← hdetector]
    unfold omissions
    induction Detector.all with
    | nil => rfl
    | cons d rest ih => cases h : outcomes.omission? d <;> simp [h, ih, hname]

variable [Scalar K]

theorem finding?_eq_some_iff {outcomes : Outcomes K} {d : Detector} {f : Finding K} :
    outcomes.finding? d = some f ↔ ∃ g, outcomes d = some (.ran g) ∧
      f = { g with name := d.name, confidence := Scalar.clamp g.confidence } := by
  unfold finding?
  constructor
  · intro h
    obtain ⟨outcome, houtcome, h⟩ := Option.bind_eq_some_iff.mp h
    obtain ⟨g, hg, rfl⟩ := Option.map_eq_some_iff.mp h
    cases outcome with
    | ran finding =>
        obtain rfl := Option.some.inj hg
        exact ⟨finding, houtcome, rfl⟩
    | unavailable | failed => cases hg
  · rintro ⟨g, hg, rfl⟩
    rw [hg]
    rfl

theorem exists_finding?_iff {outcomes : Outcomes K} {d : Detector} :
    (∃ f, outcomes.finding? d = some f) ↔ outcomes.Ran d := by
  constructor
  · rintro ⟨f, h⟩
    obtain ⟨g, hg, -⟩ := finding?_eq_some_iff.mp h
    exact ⟨g, hg⟩
  · rintro ⟨g, hg⟩
    exact ⟨_, finding?_eq_some_iff.mpr ⟨g, hg, rfl⟩⟩

theorem mem_findings_iff {outcomes : Outcomes K} {d : Detector} {f : Finding K} :
    (d, f) ∈ outcomes.findings ↔ outcomes.finding? d = some f := by
  unfold findings
  rw [List.mem_filterMap]
  constructor
  · rintro ⟨e, -, h⟩
    obtain ⟨g, hg, h⟩ := Option.map_eq_some_iff.mp h
    obtain ⟨rfl, rfl⟩ := Prod.mk.inj h
    exact hg
  · intro h
    exact ⟨d, Detector.mem_all d, by rw [h, Option.map_some]⟩

theorem name_of_finding? {outcomes : Outcomes K} {d : Detector} {f : Finding K}
    (h : outcomes.finding? d = some f) : f.name = d.name := by
  obtain ⟨g, -, rfl⟩ := finding?_eq_some_iff.mp h
  rfl

theorem findings_eq_nil_iff {outcomes : Outcomes K} :
    outcomes.findings = [] ↔ ∀ d, ¬outcomes.Ran d := by
  rw [List.eq_nil_iff_forall_not_mem]
  constructor
  · intro h d hran
    obtain ⟨f, hf⟩ := exists_finding?_iff.mpr hran
    exact h (d, f) (mem_findings_iff.mpr hf)
  · rintro h ⟨d, f⟩ hmem
    exact h d (exists_finding?_iff.mp ⟨f, mem_findings_iff.mp hmem⟩)

def byName (outcomes : Outcomes K) : StringMap (Finding K) :=
  StringMap.ofList (outcomes.findings.map fun entry => (entry.2.name, entry.2))

theorem find?_byName {outcomes : Outcomes K} {key : String} {f : Finding K} :
    outcomes.byName.find? key = some f ↔ ∃ d, d.name = key ∧ outcomes.finding? d = some f := by
  have hmem (name : String) (f : Finding K) :
      (name, f) ∈ outcomes.findings.map (fun entry => (entry.2.name, entry.2)) ↔
        ∃ d, d.name = name ∧ outcomes.finding? d = some f := by
    rw [List.mem_map]
    constructor
    · rintro ⟨⟨d, g⟩, hg, heq⟩
      obtain ⟨rfl, rfl⟩ := Prod.mk.inj heq
      have hfinding := mem_findings_iff.mp hg
      exact ⟨d, (name_of_finding? hfinding).symm, hfinding⟩
    · rintro ⟨d, rfl, hf⟩
      exact ⟨(d, f), mem_findings_iff.mpr hf, by rw [name_of_finding? hf]⟩
  rw [byName, StringMap.find?_ofList_of_unique, hmem]
  rintro ⟨name, f⟩ hf ⟨name', g⟩ hg heq
  obtain rfl : name = name' := heq
  obtain ⟨d, hd, hf⟩ := (hmem name f).mp hf
  obtain ⟨e, he, hg⟩ := (hmem name g).mp hg
  obtain rfl := Detector.name_injective (hd.trans he.symm)
  rw [Option.some.inj (hf.symm.trans hg)]

end Outcomes

namespace Config

variable {K : Type} [Scalar K]

theorem findings_aggregate (c : Config K) (outcomes : Outcomes K) :
    (c.aggregate outcomes).findings = outcomes.byName := by
  unfold aggregate
  simp only
  split <;> rfl

theorem find?_findings_aggregate (c : Config K) (outcomes : Outcomes K) (d : Detector) :
    (c.aggregate outcomes).findings.find? d.name = outcomes.finding? d := by
  ext f
  rw [findings_aggregate, Outcomes.find?_byName]
  constructor
  · rintro ⟨e, hname, hf⟩
    obtain rfl := Detector.name_injective hname
    exact hf
  · intro hf
    exact ⟨d, rfl, hf⟩

theorem aggregate_of_forall_not_ran (c : Config K) {outcomes : Outcomes K}
    (h : ∀ d, ¬outcomes.Ran d) :
    c.aggregate outcomes =
      { confidence := Scalar.zero
        risk := .unknown
        techniques := .empty
        findings := .empty
        omissions :=
          if outcomes.omissions.isEmpty then
            [⟨aggregatorName, "no detector could evaluate the supplied evidence"⟩]
          else outcomes.omissions } := by
  have hnil := Outcomes.findings_eq_nil_iff.mpr h
  simp only [aggregate, hnil]
  rfl

theorem aggregate_of_ran (c : Config K) {outcomes : Outcomes K} {d : Detector}
    (h : outcomes.Ran d) :
    c.aggregate outcomes =
      { confidence := c.overall outcomes
        risk := c.thresholds.classify (c.overall outcomes)
        techniques := StringSet.ofList
          ((outcomes.byName.values.filter (·.isPositive)).flatMap (·.techniques.toList))
        findings := outcomes.byName
        omissions := outcomes.omissions } := by
  have hne : outcomes.findings.isEmpty = false := by
    rw [List.isEmpty_eq_false_iff]
    exact fun hnil => Outcomes.findings_eq_nil_iff.mp hnil d h
  simp only [aggregate, hne]
  rfl

end Config

end Honeypot
