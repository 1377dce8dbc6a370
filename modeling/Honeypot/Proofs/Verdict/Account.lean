import Honeypot.Proofs.Number.Clamp
import Honeypot.Proofs.Verdict.Outcomes

namespace Honeypot

namespace Thresholds

variable {K : Type} [Scalar K]

/-- A confidence reaches each level of which it is at least the threshold, and `safe` in any
case. -/
def Reaches (t : Thresholds K) (confidence : K) : Risk → Prop
  | .safe => True
  | .low => Scalar.le t.low confidence = true
  | .medium => Scalar.le t.medium confidence = true
  | .high => Scalar.le t.high confidence = true
  | .critical => Scalar.le t.critical confidence = true
  | .unknown => False

/-- The highest level that a confidence reaches. -/
structure IsLevel (t : Thresholds K) (confidence : K) (r : Risk) : Prop where
  reached : t.Reaches confidence r
  highest : ∀ other, t.Reaches confidence other → other.rank ≤ r.rank

variable (t : Thresholds K) (confidence : K)

theorem isLevel_classify : t.IsLevel confidence (t.classify confidence) where
  reached := by
    unfold classify
    repeat' split
    all_goals first | assumption | trivial
  highest := by
    intro other hother
    unfold classify
    cases other with
    | unknown => exact hother.elim
    | _ =>
        repeat' split
        all_goals first | decide | exact absurd hother ‹_›

theorem classify_eq_iff {r : Risk} : t.classify confidence = r ↔ t.IsLevel confidence r := by
  constructor
  · rintro rfl
    exact t.isLevel_classify confidence
  · intro h
    have hlevel := t.isLevel_classify confidence
    have hrank := Nat.le_antisymm (h.highest _ hlevel.reached) (hlevel.highest r h.reached)
    revert hrank
    cases t.classify confidence <;> cases r <;> decide

theorem classify_ne_unknown : t.classify confidence ≠ .unknown := by
  intro h
  have hreached := (t.isLevel_classify confidence).reached
  rw [h] at hreached
  exact hreached

end Thresholds

theorem Detector.name_ne_aggregatorName (d : Detector) : d.name ≠ aggregatorName := by
  cases d <;> decide

namespace Config

section Parts

variable {K : Type} [Scalar K] (c : Config K) (outcomes : Outcomes K)

theorem risk_aggregate_eq_unknown_iff :
    (c.aggregate outcomes).risk = .unknown ↔ ∀ d, ¬outcomes.Ran d := by
  constructor
  · intro h d hd
    rw [aggregate_of_ran c hd] at h
    exact Thresholds.classify_ne_unknown _ _ h
  · intro h
    rw [aggregate_of_forall_not_ran c h]

theorem mem_keys_aggregate (name : String) :
    name ∈ (c.aggregate outcomes).findings.keys ↔ ∃ d, outcomes.Ran d ∧ d.name = name := by
  rw [findings_aggregate, StringMap.mem_keys_iff]
  constructor
  · rintro ⟨f, hf⟩
    obtain ⟨d, hd, hf⟩ := Outcomes.find?_byName.mp hf
    exact ⟨d, Outcomes.exists_finding?_iff.mp ⟨f, hf⟩, hd⟩
  · rintro ⟨d, hran, hd⟩
    obtain ⟨f, hf⟩ := Outcomes.exists_finding?_iff.mpr hran
    exact ⟨f, Outcomes.find?_byName.mpr ⟨d, hd, hf⟩⟩

theorem exists_omissions_aggregate : ∃ told final, outcomes.Told told ∧
    (c.aggregate outcomes).omissions = told.map (fun e => ⟨e.1.name, e.2⟩) ++ final ∧
    ((∀ d, ¬outcomes.Ran d) ∧ told = [] →
      final = [⟨aggregatorName, "no detector could evaluate the supplied evidence"⟩]) ∧
    ((∃ d, outcomes.Ran d) ∨ told ≠ [] → final = []) := by
  obtain ⟨told, htold, homissions⟩ := outcomes.exists_told
  have hempty : outcomes.omissions.isEmpty = told.isEmpty := by
    rw [homissions, List.isEmpty_map]
  by_cases hran : ∃ d, outcomes.Ran d
  · obtain ⟨d, hd⟩ := hran
    refine ⟨told, [], htold, ?_, ?_, fun _ => rfl⟩
    · rw [aggregate_of_ran c hd, List.append_nil]
      exact homissions
    · rintro ⟨hnone, -⟩
      exact absurd hd (hnone d)
  · have hnone := not_exists.mp hran
    rw [aggregate_of_forall_not_ran c hnone]
    cases told with
    | nil =>
        refine ⟨[], _, htold, ?_, fun _ => rfl, ?_⟩
        · exact if_pos hempty
        · rintro (h | h)
          · exact absurd h hran
          · exact absurd rfl h
    | cons first rest =>
        refine ⟨first :: rest, [], htold, ?_, ?_, fun _ => rfl⟩
        · rw [List.append_nil, ← homissions]
          exact if_neg (by rw [hempty]; exact Bool.false_ne_true)
        · rintro ⟨-, h⟩
          cases h

theorem disjoint_aggregate : ∀ o ∈ (c.aggregate outcomes).omissions,
    o.detector ∉ (c.aggregate outcomes).findings.keys := by
  intro o ho hkey
  obtain ⟨d, ⟨f, hran⟩, hname⟩ := (c.mem_keys_aggregate outcomes o.detector).mp hkey
  obtain ⟨told, final, htold, homissions, -, hfinal⟩ := c.exists_omissions_aggregate outcomes
  obtain rfl := hfinal (.inl ⟨d, f, hran⟩)
  rw [homissions, List.append_nil] at ho
  obtain ⟨⟨e, reason⟩, hmem, rfl⟩ := List.mem_map.mp ho
  obtain ⟨outcome, houtcome, htells⟩ := (htold.mem_iff e reason).mp hmem
  obtain rfl := Detector.name_injective hname
  rw [hran] at houtcome
  obtain rfl := Option.some.inj houtcome
  cases htells

theorem exists_omission_iff (d : Detector) :
    (∃ o ∈ (c.aggregate outcomes).omissions, o.detector = d.name) ↔
      ∃ outcome reason, outcomes d = some outcome ∧ outcome.Tells reason := by
  obtain ⟨told, final, htold, homissions, hfinal, hfinal'⟩ :=
    c.exists_omissions_aggregate outcomes
  rw [homissions]
  constructor
  · rintro ⟨o, ho, hname⟩
    rcases List.mem_append.mp ho with ho | ho
    · obtain ⟨⟨e, reason⟩, hmem, rfl⟩ := List.mem_map.mp ho
      obtain rfl := Detector.name_injective hname
      obtain ⟨outcome, houtcome, htells⟩ := (htold.mem_iff e reason).mp hmem
      exact ⟨outcome, reason, houtcome, htells⟩
    · by_cases h : (∃ d, outcomes.Ran d) ∨ told ≠ []
      · rw [hfinal' h] at ho
        cases ho
      · obtain ⟨hnone, htold⟩ := not_or.mp h
        rw [hfinal ⟨not_exists.mp hnone, not_not.mp htold⟩, List.mem_singleton] at ho
        rw [ho] at hname
        exact absurd hname.symm d.name_ne_aggregatorName
  · rintro ⟨outcome, reason, houtcome, htells⟩
    have hmem := (htold.mem_iff d reason).mpr ⟨outcome, houtcome, htells⟩
    exact ⟨⟨d.name, reason⟩, List.mem_append_left _ (List.mem_map.mpr ⟨_, hmem, rfl⟩), rfl⟩

theorem filter_omissions_aggregate (d : Detector) :
    (c.aggregate outcomes).omissions.filter (fun o => o.detector = d.name) =
      (outcomes.omission? d).toList := by
  by_cases hran : ∃ e, outcomes.Ran e
  · obtain ⟨e, he⟩ := hran
    rw [aggregate_of_ran c he]
    exact outcomes.filter_omissions d
  · rw [aggregate_of_forall_not_ran c (not_exists.mp hran), ← outcomes.filter_omissions]
    show List.filter _ (if _ then _ else _) = _
    split
    · rename_i hnil
      rw [List.isEmpty_iff.mp hnil]
      simp [Ne.symm d.name_ne_aggregatorName]
    · rfl

theorem ne_aggregatorName_of_mem_omissions {d : Detector}
    (h : outcomes.Ran d ∨ ∃ outcome reason, outcomes d = some outcome ∧ outcome.Tells reason) :
    ∀ o ∈ (c.aggregate outcomes).omissions, o.detector ≠ aggregatorName := by
  obtain ⟨told, final, htold, homissions, -, hfinal⟩ := c.exists_omissions_aggregate outcomes
  have hsome : (∃ d, outcomes.Ran d) ∨ told ≠ [] := by
    rcases h with hran | ⟨outcome, reason, houtcome, htells⟩
    · exact .inl ⟨d, hran⟩
    · exact .inr (List.ne_nil_of_mem ((htold.mem_iff d reason).mpr ⟨outcome, houtcome, htells⟩))
  rw [homissions, hfinal hsome, List.append_nil]
  intro o ho
  obtain ⟨⟨e, reason⟩, -, rfl⟩ := List.mem_map.mp ho
  exact e.name_ne_aggregatorName

end Parts

end Config

/-- A verdict tells the findings of the detectors that ran and the reasons of the others, and it
is drawn up from these findings alone. -/
structure Verdict.AccountsFor (c : Config Float) (outcomes : Outcomes Float) (v : Verdict Float) :
    Prop where
  keys : ∀ name, name ∈ v.findings.keys ↔ ∃ d, outcomes.Ran d ∧ d.name = name
  finding : ∀ d f, outcomes d = some (.ran f) → ∃ confidence, Clamped f.confidence confidence ∧
    v.findings.find? d.name = some { f with name := d.name, confidence }
  omissions : ∃ told final, outcomes.Told told ∧
    v.omissions = told.map (fun e => ⟨e.1.name, e.2⟩) ++ final ∧
    ((∀ d, ¬outcomes.Ran d) ∧ told = [] →
      final = [⟨aggregatorName, "no detector could evaluate the supplied evidence"⟩]) ∧
    ((∃ d, outcomes.Ran d) ∨ told ≠ [] → final = [])
  disjoint : ∀ o ∈ v.omissions, o.detector ∉ v.findings.keys
  unknown_iff : v.risk = .unknown ↔ ∀ d, ¬outcomes.Ran d
  nothing : (∀ d, ¬outcomes.Ran d) → v.confidence = 0 ∧ v.techniques = .empty
  something : (∃ d, outcomes.Ran d) → 0 ≤ v.confidence ∧ v.confidence ≤ 1 ∧
    (∀ r, v.risk = r ↔ c.thresholds.IsLevel v.confidence r) ∧
    ∀ t, t ∈ v.techniques.toList ↔
      ∃ name f, v.findings.find? name = some f ∧ 0 < f.confidence ∧ t ∈ f.techniques.toList

namespace Config

variable (c : Config Float) (outcomes : Outcomes Float)

theorem mem_techniques_aggregate {d : Detector} (h : outcomes.Ran d) (t : String) :
    t ∈ (c.aggregate outcomes).techniques.toList ↔
      ∃ name f, (c.aggregate outcomes).findings.find? name = some f ∧ 0 < f.confidence ∧
        t ∈ f.techniques.toList := by
  have hpositive (f : Finding Float) : f.isPositive = true ↔ 0 < f.confidence :=
    decide_eq_true_iff
  rw [aggregate_of_ran c h]
  simp only [StringSet.mem_toList_ofList, List.mem_flatMap, List.mem_filter,
    StringMap.mem_values_iff, hpositive]
  constructor
  · rintro ⟨f, ⟨⟨name, hf⟩, hpos⟩, ht⟩
    exact ⟨name, f, hf, hpos, ht⟩
  · rintro ⟨name, f, hf, hpos, ht⟩
    exact ⟨f, ⟨⟨name, hf⟩, hpos⟩, ht⟩

/-- The verdict on any outcomes accounts for them, whatever the findings in them say. -/
theorem aggregate_accountsFor : Verdict.AccountsFor c outcomes (c.aggregate outcomes) where
  keys := c.mem_keys_aggregate outcomes
  finding := by
    intro d f hf
    refine ⟨Scalar.clamp f.confidence, clamped_clamp f.confidence, ?_⟩
    rw [findings_aggregate, Outcomes.find?_byName]
    exact ⟨d, rfl, Outcomes.finding?_eq_some_iff.mpr ⟨f, hf, rfl⟩⟩
  omissions := c.exists_omissions_aggregate outcomes
  disjoint := c.disjoint_aggregate outcomes
  unknown_iff := c.risk_aggregate_eq_unknown_iff outcomes
  nothing := by
    intro h
    rw [aggregate_of_forall_not_ran c h]
    exact ⟨rfl, rfl⟩
  something := by
    rintro ⟨d, hd⟩
    refine ⟨?_, ?_, ?_, c.mem_techniques_aggregate outcomes hd⟩
    · rw [aggregate_of_ran c hd]
      exact (Scalar.clamp_mem_range _).1
    · rw [aggregate_of_ran c hd]
      exact (Scalar.clamp_mem_range _).2
    · rw [aggregate_of_ran c hd]
      exact fun r => c.thresholds.classify_eq_iff _

end Config

end Honeypot
