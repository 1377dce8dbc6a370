import Honeypot.Config.Standard
import Honeypot.Proofs.Number.Exact
import Honeypot.Proofs.Verdict.Account
import Mathlib.Algebra.BigOperators.Field
import Mathlib.Algebra.BigOperators.Group.Finset.Basic
import Mathlib.Algebra.Order.BigOperators.Group.Finset
import Mathlib.Data.Finset.Lattice.Fold
import Mathlib.Data.Fintype.Basic
import Mathlib.Tactic.NormNum

namespace Honeypot

instance : Fintype Engine := ⟨⟨Engine.all, by decide⟩, by rintro ⟨⟩ <;> decide⟩

instance : Fintype Detector := ⟨⟨Detector.all, by decide⟩, by rintro ⟨⟩ <;> decide⟩

namespace Outcomes

variable (outcomes : Outcomes ℚ)

instance {K : Type} (outcomes : Outcomes K) : DecidablePred outcomes.Ran := fun d =>
  match h : outcomes d with
  | some (.ran f) => .isTrue ⟨f, h⟩
  | some (.unavailable _ _) => .isFalse fun ⟨_, hf⟩ => by rw [h] at hf; cases hf
  | some (.failed _) => .isFalse fun ⟨_, hf⟩ => by rw [h] at hf; cases hf
  | none => .isFalse fun ⟨_, hf⟩ => by rw [h] at hf; cases hf

/-- The confidence of a detector, brought into range; zero where there is none. -/
def clamped (d : Detector) : ℚ :=
  match outcomes d with
  | some (.ran f) => max 0 (min f.confidence 1)
  | _ => 0

def members (e : Engine) : Finset Detector := {d | Engine.of d = e ∧ outcomes.Ran d}

def engines : Finset Engine := {e | (outcomes.members e).Nonempty}

/-- The mean confidence of the detectors of an engine that ran. -/
def engineMean (e : Engine) : ℚ :=
  (∑ d ∈ outcomes.members e, outcomes.clamped d) / (outcomes.members e).card

variable {outcomes}

theorem mem_members_iff {e : Engine} {d : Detector} :
    d ∈ outcomes.members e ↔ Engine.of d = e ∧ outcomes.Ran d := by
  rw [members, Finset.mem_filter_univ]

theorem mem_engines_iff {e : Engine} : e ∈ outcomes.engines ↔ (outcomes.members e).Nonempty := by
  rw [engines, Finset.mem_filter_univ]

theorem confidence_of_finding? {d : Detector} {f : Finding ℚ} (h : outcomes.finding? d = some f) :
    f.confidence = outcomes.clamped d := by
  obtain ⟨g, hg, rfl⟩ := finding?_eq_some_iff.mp h
  rw [clamped, hg]
  exact Scalar.clamp_eq_max_min g.confidence

variable (outcomes)

theorem scores_eq_map (e : Engine) : outcomes.scores e =
    (Detector.all.filter fun d => Engine.of d = e ∧ outcomes.Ran d).map outcomes.clamped := by
  unfold scores findings
  induction Detector.all with
  | nil => rfl
  | cons d rest ih =>
      cases h : outcomes.finding? d with
      | none =>
          have hran : ¬outcomes.Ran d := by
            intro hran
            obtain ⟨f, hf⟩ := exists_finding?_iff.mpr hran
            rw [h] at hf
            cases hf
          rw [List.filterMap_cons_none (by rw [h]; rfl), ih,
            List.filter_cons_of_neg (by simp [hran])]
      | some f =>
          have hran : outcomes.Ran d := exists_finding?_iff.mp ⟨f, h⟩
          have hconfidence := confidence_of_finding? h
          rw [List.filterMap_cons_some (b := (d, f)) (by rw [h]; rfl)]
          by_cases he : Engine.of d = e
          · rw [List.filter_cons_of_pos (by simp [he]),
              List.filter_cons_of_pos (by simp [he, hran]),
              List.map_cons, List.map_cons, ih, hconfidence]
          · rw [List.filter_cons_of_neg (by simp [he]),
              List.filter_cons_of_neg (by simp [he]), ih]

theorem toFinset_filter_all (p : Detector → Prop) [DecidablePred p] :
    (Detector.all.filter fun d => p d).toFinset = ({d | p d} : Finset Detector) := by
  ext d
  simp [Detector.mem_all]

theorem mean_scores (e : Engine) : Scalar.mean (outcomes.scores e) = outcomes.engineMean e := by
  have hnodup : (Detector.all.filter fun d => Engine.of d = e ∧ outcomes.Ran d).Nodup :=
    List.Nodup.filter _ (by decide)
  rw [Scalar.mean_eq_div, scores_eq_map, List.length_map, ← List.sum_toFinset _ hnodup,
    ← List.toFinset_card_of_nodup hnodup, toFinset_filter_all]
  rfl

theorem nodup_present : outcomes.present.Nodup := List.Nodup.filter _ (by decide)

theorem toFinset_present : outcomes.present.toFinset = outcomes.engines := by
  ext e
  have hall : e ∈ Engine.all := Finset.mem_univ e
  have hscores : (outcomes.scores e).isEmpty = false ↔ (outcomes.members e).Nonempty := by
    rw [scores_eq_map, List.isEmpty_map, List.isEmpty_eq_false_iff, ← List.toFinset_nonempty_iff,
      toFinset_filter_all]
    rfl
  rw [List.mem_toFinset, present, List.mem_filter, Bool.not_eq_true', hscores, mem_engines_iff]
  exact and_iff_right hall

theorem clamped_nonneg (d : Detector) : 0 ≤ outcomes.clamped d := by
  unfold clamped
  split
  · exact le_max_left _ _
  · exact le_rfl

theorem clamped_le_one (d : Detector) : outcomes.clamped d ≤ 1 := by
  unfold clamped
  split
  · exact max_le zero_le_one (min_le_right _ _)
  · exact zero_le_one

theorem engineMean_nonneg (e : Engine) : 0 ≤ outcomes.engineMean e :=
  div_nonneg (Finset.sum_nonneg fun d _ => outcomes.clamped_nonneg d) (Nat.cast_nonneg _)

theorem engineMean_le_one {e : Engine} (h : e ∈ outcomes.engines) :
    outcomes.engineMean e ≤ 1 := by
  have hcard : (0 : ℚ) < (outcomes.members e).card :=
    Nat.cast_pos.mpr (mem_engines_iff.mp h).card_pos
  rw [engineMean, div_le_one₀ hcard]
  calc ∑ d ∈ outcomes.members e, outcomes.clamped d ≤ ∑ _d ∈ outcomes.members e, (1 : ℚ) :=
        Finset.sum_le_sum fun d _ => outcomes.clamped_le_one d
    _ = (outcomes.members e).card := by rw [Finset.sum_const, nsmul_eq_mul, mul_one]

theorem engines_nonempty {d : Detector} (h : outcomes.Ran d) : outcomes.engines.Nonempty :=
  ⟨Engine.of d, mem_engines_iff.mpr ⟨d, mem_members_iff.mpr ⟨rfl, h⟩⟩⟩

end Outcomes

namespace Thresholds

theorem Reaches.mono {t : Thresholds ℚ} {x y : ℚ} {r : Risk} (h : t.Reaches x r) (hle : x ≤ y) :
    t.Reaches y r := by
  have hscalar {threshold : ℚ} (hx : Scalar.le threshold x = true) :
      Scalar.le threshold y = true :=
    decide_eq_true ((of_decide_eq_true hx).trans hle)
  cases r with
  | safe => trivial
  | unknown => exact h
  | _ => exact hscalar h

/-- A higher confidence is never of a lower level, in whatever order the thresholds stand. -/
theorem rank_classify_mono (t : Thresholds ℚ) {x y : ℚ} (h : x ≤ y) :
    (t.classify x).rank ≤ (t.classify y).rank :=
  (t.isLevel_classify y).highest _ ((t.isLevel_classify x).reached.mono h)

end Thresholds

namespace Config

variable (c : Config ℚ)

theorem baseWeight_nonneg (present : List Engine) (e : Engine) : 0 ≤ c.baseWeight present e := by
  rw [baseWeight, Scalar.max_eq_max]
  exact le_max_right _ 0

theorem totalWeight_eq_sum {present : List Engine} (h : present.Nodup) :
    c.totalWeight present = ∑ e ∈ present.toFinset, c.baseWeight present e := by
  rw [totalWeight, Scalar.sum_eq_sum, List.sum_toFinset _ h]

theorem share_of_nonpos {present : List Engine} (h : c.totalWeight present ≤ 0) (e : Engine) :
    c.share present e = 1 / present.length := by
  have hle : Scalar.le (c.totalWeight present) Scalar.zero = true := decide_eq_true h
  rw [share, if_pos hle]
  show ((1 : ℕ) : ℚ) / (present.length : ℚ) = 1 / present.length
  rw [Nat.cast_one]

theorem share_of_pos {present : List Engine} (h : 0 < c.totalWeight present) (e : Engine) :
    c.share present e = c.baseWeight present e / c.totalWeight present := by
  have hle : ¬Scalar.le (c.totalWeight present) Scalar.zero = true := by
    show ¬decide (c.totalWeight present ≤ 0) = true
    rw [decide_eq_true_iff]
    exact not_le.mpr h
  rw [share, if_neg hle]

theorem share_nonneg (present : List Engine) (e : Engine) : 0 ≤ c.share present e := by
  rcases le_or_gt (c.totalWeight present) 0 with h | h
  · rw [share_of_nonpos c h]
    exact div_nonneg zero_le_one (Nat.cast_nonneg _)
  · rw [share_of_pos c h]
    exact div_nonneg (c.baseWeight_nonneg present e) h.le

theorem sum_share {present : List Engine} (hnodup : present.Nodup) (hne : present ≠ []) :
    ∑ e ∈ present.toFinset, c.share present e = 1 := by
  rcases le_or_gt (c.totalWeight present) 0 with h | h
  · have hlength : (present.length : ℚ) ≠ 0 := by
      rw [Nat.cast_ne_zero]
      exact fun h => hne (List.length_eq_zero_iff.mp h)
    simp only [share_of_nonpos c h]
    rw [Finset.sum_const, List.toFinset_card_of_nodup hnodup, nsmul_eq_mul,
      mul_one_div_cancel hlength]
  · simp only [share_of_pos c h]
    rw [← Finset.sum_div, ← totalWeight_eq_sum c hnodup, div_self h.ne']

/-- The average of the engines, before it is brought into range. -/
def average (outcomes : Outcomes ℚ) : ℚ :=
  ∑ e ∈ outcomes.engines, c.share outcomes.present e * outcomes.engineMean e

variable {c}

theorem sum_share_engines {outcomes : Outcomes ℚ} {d : Detector} (h : outcomes.Ran d) :
    ∑ e ∈ outcomes.engines, c.share outcomes.present e = 1 := by
  have hne : outcomes.present ≠ [] := by
    rw [← List.toFinset_nonempty_iff, outcomes.toFinset_present]
    exact outcomes.engines_nonempty h
  rw [← outcomes.toFinset_present]
  exact c.sum_share outcomes.nodup_present hne

theorem overall_eq_clamp (outcomes : Outcomes ℚ) :
    c.overall outcomes = max 0 (min (c.average outcomes) 1) := by
  have hsum : ((outcomes.present.map fun e => c.share outcomes.present e *
      Scalar.mean (outcomes.scores e)).foldl (· + ·) Scalar.zero) = c.average outcomes := by
    rw [average, ← outcomes.toFinset_present, List.sum_toFinset _ outcomes.nodup_present,
      Scalar.foldl_add_eq_sum]
    simp only [outcomes.mean_scores]
  rw [overall, hsum, Scalar.clamp_eq_max_min]

theorem le_average {outcomes : Outcomes ℚ} {d : Detector} (h : outcomes.Ran d) {low : ℚ}
    (hlow : ∀ e ∈ outcomes.engines, low ≤ outcomes.engineMean e) : low ≤ c.average outcomes :=
  calc low = (∑ e ∈ outcomes.engines, c.share outcomes.present e) * low := by
        rw [sum_share_engines h, one_mul]
    _ = ∑ e ∈ outcomes.engines, c.share outcomes.present e * low := Finset.sum_mul _ _ _
    _ ≤ c.average outcomes := Finset.sum_le_sum fun e he =>
        mul_le_mul_of_nonneg_left (hlow e he) (c.share_nonneg _ e)

theorem average_le {outcomes : Outcomes ℚ} {d : Detector} (h : outcomes.Ran d) {high : ℚ}
    (hhigh : ∀ e ∈ outcomes.engines, outcomes.engineMean e ≤ high) : c.average outcomes ≤ high :=
  calc c.average outcomes ≤ ∑ e ∈ outcomes.engines, c.share outcomes.present e * high :=
        Finset.sum_le_sum fun e he => mul_le_mul_of_nonneg_left (hhigh e he) (c.share_nonneg _ e)
    _ = (∑ e ∈ outcomes.engines, c.share outcomes.present e) * high := (Finset.sum_mul _ _ _).symm
    _ = high := by rw [sum_share_engines h, one_mul]

/-- The average is in range, so that bringing it into range changes nothing. -/
theorem overall_eq_average {outcomes : Outcomes ℚ} {d : Detector} (h : outcomes.Ran d) :
    c.overall outcomes = c.average outcomes := by
  have hnonneg : 0 ≤ c.average outcomes := le_average h fun e _ => outcomes.engineMean_nonneg e
  have hone : c.average outcomes ≤ 1 := average_le h fun e he => outcomes.engineMean_le_one he
  rw [overall_eq_clamp, min_eq_left hone, max_eq_right hnonneg]

section Monotone

variable {outcomes outcomes' : Outcomes ℚ}

theorem members_congr (hran : ∀ d, outcomes.Ran d ↔ outcomes'.Ran d) (e : Engine) :
    outcomes.members e = outcomes'.members e := by
  ext d
  rw [Outcomes.mem_members_iff, Outcomes.mem_members_iff, hran]

theorem present_congr (hran : ∀ d, outcomes.Ran d ↔ outcomes'.Ran d) :
    outcomes.present = outcomes'.present := by
  refine List.filter_congr fun e _ => ?_
  have hfilter : (Detector.all.filter fun d => Engine.of d = e ∧ outcomes.Ran d) =
      Detector.all.filter fun d => Engine.of d = e ∧ outcomes'.Ran d :=
    List.filter_congr fun d _ => decide_eq_decide.mpr (and_congr_right fun _ => hran d)
  rw [Outcomes.scores_eq_map, Outcomes.scores_eq_map, List.isEmpty_map, List.isEmpty_map, hfilter]

theorem engineMean_mono (hran : ∀ d, outcomes.Ran d ↔ outcomes'.Ran d)
    (hle : ∀ d, outcomes.clamped d ≤ outcomes'.clamped d) (e : Engine) :
    outcomes.engineMean e ≤ outcomes'.engineMean e := by
  rw [Outcomes.engineMean, Outcomes.engineMean, members_congr hran]
  exact div_le_div_of_nonneg_right (Finset.sum_le_sum fun d _ => hle d) (Nat.cast_nonneg _)

theorem average_mono (hran : ∀ d, outcomes.Ran d ↔ outcomes'.Ran d)
    (hle : ∀ d, outcomes.clamped d ≤ outcomes'.clamped d) :
    c.average outcomes ≤ c.average outcomes' := by
  have hengines : outcomes.engines = outcomes'.engines := by
    rw [← Outcomes.toFinset_present, ← Outcomes.toFinset_present, present_congr hran]
  rw [average, average, hengines, present_congr hran]
  exact Finset.sum_le_sum fun e _ =>
    mul_le_mul_of_nonneg_left (engineMean_mono hran hle e) (c.share_nonneg _ e)

end Monotone

/-- The overall confidence is the average of the engines, each with its share. It lies between the
lowest and the highest of their means, and neither it nor the level of risk falls when confidences
rise. -/
theorem confidence_is_average (c : Config ℚ) (outcomes : Outcomes ℚ)
    (h : ∃ d, outcomes.Ran d) :
    (c.aggregate outcomes).confidence =
        ∑ e ∈ outcomes.engines, c.share outcomes.present e * outcomes.engineMean e ∧
      ((∀ e, 0 ≤ c.share outcomes.present e) ∧
        ∑ e ∈ outcomes.engines, c.share outcomes.present e = 1) ∧
      (∃ hne : outcomes.engines.Nonempty,
        outcomes.engines.inf' hne outcomes.engineMean ≤ (c.aggregate outcomes).confidence ∧
        (c.aggregate outcomes).confidence ≤ outcomes.engines.sup' hne outcomes.engineMean) ∧
      (∀ e, outcomes.engines = {e} →
        (c.aggregate outcomes).confidence = outcomes.engineMean e) ∧
      ∀ outcomes' : Outcomes ℚ, (∀ d, outcomes.Ran d ↔ outcomes'.Ran d) →
        (∀ d, outcomes.clamped d ≤ outcomes'.clamped d) →
        (c.aggregate outcomes).confidence ≤ (c.aggregate outcomes').confidence ∧
        (c.aggregate outcomes).risk ≠ .unknown ∧ (c.aggregate outcomes').risk ≠ .unknown ∧
        (c.aggregate outcomes).risk.rank ≤ (c.aggregate outcomes').risk.rank := by
  obtain ⟨d, hd⟩ := h
  have hconfidence {outcomes : Outcomes ℚ} (hd : outcomes.Ran d) :
      (c.aggregate outcomes).confidence = c.average outcomes := by
    rw [aggregate_of_ran c hd]
    exact overall_eq_average hd
  refine ⟨hconfidence hd, ⟨c.share_nonneg _, sum_share_engines hd⟩,
    ⟨outcomes.engines_nonempty hd, ?_, ?_⟩, ?_, ?_⟩
  · rw [hconfidence hd]
    exact le_average hd fun e he => Finset.inf'_le _ he
  · rw [hconfidence hd]
    exact average_le hd fun e he => Finset.le_sup' _ he
  · intro e he
    rw [hconfidence hd]
    refine le_antisymm (average_le hd ?_) (le_average hd ?_)
    · intro e' he'
      rw [he, Finset.mem_singleton] at he'
      rw [he']
    · intro e' he'
      rw [he, Finset.mem_singleton] at he'
      rw [he']
  · intro outcomes' hran hle
    have hd' := (hran d).mp hd
    rw [hconfidence hd, hconfidence hd', aggregate_of_ran c hd, aggregate_of_ran c hd']
    refine ⟨average_mono hran hle, Thresholds.classify_ne_unknown _ _,
      Thresholds.classify_ne_unknown _ _, ?_⟩
    apply Thresholds.rank_classify_mono
    rw [overall_eq_average hd, overall_eq_average hd']
    exact average_mono hran hle

def twoEngines (ml : ℚ) : Outcomes ℚ
  | .ml => some (.ran { name := "", confidence := ml, techniques := .empty, evidence := .empty })
  | .bytecode =>
      some (.ran { name := "", confidence := 3 / 2, techniques := .empty, evidence := .empty })
  | .functions =>
      some (.ran { name := "", confidence := -1, techniques := .empty, evidence := .empty })
  | .source => some (.unavailable .source none)
  | _ => none

theorem confidence_is_average_of_twoEngines : (∃ d, (twoEngines (1 / 3)).Ran d) ∧
    (standard.aggregate (twoEngines (1 / 3))).confidence ≤
      (standard.aggregate (twoEngines 7)).confidence := by
  have hran : ∀ d, (twoEngines (1 / 3)).Ran d ↔ (twoEngines 7).Ran d := by
    intro d
    cases d <;> simp [Outcomes.Ran, twoEngines]
  have hle : ∀ d, (twoEngines (1 / 3)).clamped d ≤ (twoEngines 7).clamped d := by
    intro d
    cases d <;> norm_num [Outcomes.clamped, twoEngines]
  have hml : (twoEngines (1 / 3)).Ran .ml := ⟨_, rfl⟩
  have haverage := confidence_is_average standard (twoEngines (1 / 3)) ⟨.ml, hml⟩
  exact ⟨⟨.ml, hml⟩, (haverage.2.2.2.2 (twoEngines 7) hran hle).1⟩

end Config

end Honeypot
