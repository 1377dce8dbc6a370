import Honeypot.Config.Standard
import Honeypot.Detect.Bytecode
import Honeypot.Detect.Functions
import Honeypot.Detect.History
import Honeypot.Detect.Source
import Honeypot.Proofs.Number.Exact
import Mathlib.Algebra.Order.BigOperators.Group.List

namespace Honeypot

namespace Config

def firedChecks {K : Type} [Scalar K] (c : Config K) (history : List Transaction)
    (contract : Address) : List (K × String) :=
  match history with
  | [] => []
  | first :: _ =>
      (if (c.history.drains history contract).isEmpty then []
        else [(c.history.drainWeight, c.history.drainTechnique)]) ++
      (if paysOnly first.sender (history.filter (·.isWithdrawal contract)) then
        [(c.history.ownerWeight, c.history.ownerTechnique)] else []) ++
      (if (c.history.failures? history contract).any (Scalar.le c.history.failedShare ·.1) then
        [(c.history.failedWeight, c.history.failedTechnique)] else [])

variable (c : Config ℚ)

theorem confidence_scanCode (code : Code) : (c.scanCode code).confidence =
    max 0 (min ((c.firedOpcodeRules code).map OpcodeRule.weight).sum 1) := by
  have h : (c.scanCode code).confidence = Scalar.clamp (Scalar.capAtOne
      (Scalar.sum ((c.firedOpcodeRules code).map OpcodeRule.weight))) := rfl
  rw [h, Scalar.clamp_eq_max_min, Scalar.capAtOne_eq_min, Scalar.sum_eq_sum, min_assoc, min_self]

theorem confidence_scanAbi (abi : List AbiEntry) : (c.scanAbi abi).confidence =
    max 0 (min (strongest (c.nameHits abi)).values.sum 1) := by
  have h : (c.scanAbi abi).confidence = Scalar.clamp (Scalar.capAtOne
      (Scalar.sum (strongest (c.nameHits abi)).values)) := rfl
  rw [h, Scalar.clamp_eq_max_min, Scalar.capAtOne_eq_min, Scalar.sum_eq_sum, min_assoc, min_self]

theorem confidence_scanSource (source : String) : (c.scanSource source).confidence =
    min ((c.firedSourceRules source).map (·.1.weight)).sum 1 := by
  have h : (c.scanSource source).confidence = Scalar.capAtOne
      (((c.firedSourceRules source).map (·.1.weight)).foldl (· + ·) Scalar.zero) := rfl
  rw [h, Scalar.capAtOne_eq_min, Scalar.foldl_add_eq_sum]

theorem confidence_scanHistory (history : List Transaction) (contract : Address) :
    (c.scanHistory history contract).confidence =
      min ((c.firedChecks history contract).map Prod.fst).sum 1 := by
  have h : (c.scanHistory history contract).confidence = Scalar.capAtOne
      (((c.firedChecks history contract).map Prod.fst).foldl (· + ·) Scalar.zero) := by
    cases history with
    | nil =>
        -- The finding on no transactions is clamped, all others are only capped.
        have hzero : Scalar.clamp (Scalar.zero : ℚ) = Scalar.capAtOne Scalar.zero := by decide
        exact hzero
    | cons => rfl
  rw [h, Scalar.capAtOne_eq_min, Scalar.foldl_add_eq_sum]

theorem weight_nonneg_of_mem_firedChecks {history : List Transaction} {contract : Address}
    (hdrain : 0 ≤ c.history.drainWeight) (howner : 0 ≤ c.history.ownerWeight)
    (hfailed : 0 ≤ c.history.failedWeight) :
    ∀ check ∈ c.firedChecks history contract, 0 ≤ check.1 := by
  intro check hcheck
  unfold firedChecks at hcheck
  split at hcheck
  · cases hcheck
  · simp only [List.mem_append, List.mem_ite_nil_left, List.mem_ite_nil_right,
      List.mem_singleton] at hcheck
    rcases hcheck with (⟨-, rfl⟩ | ⟨-, rfl⟩) | ⟨-, rfl⟩
    · exact hdrain
    · exact howner
    · exact hfailed

/-- Findings on bytecode and interfaces have confidences between zero and one, whatever the
weights. Findings on sources and histories have confidences of at most one, which are below zero
exactly where the weights that fire add up to less than zero; this takes a negative weight. -/
theorem confidence_nonneg_iff :
    (∀ code, 0 ≤ (c.scanCode code).confidence ∧ (c.scanCode code).confidence ≤ 1) ∧
    (∀ abi, 0 ≤ (c.scanAbi abi).confidence ∧ (c.scanAbi abi).confidence ≤ 1) ∧
    (∀ source, (c.scanSource source).confidence ≤ 1 ∧
      (0 ≤ (c.scanSource source).confidence ↔
        0 ≤ ((c.firedSourceRules source).map (·.1.weight)).sum)) ∧
    (∀ history contract, (c.scanHistory history contract).confidence ≤ 1 ∧
      (0 ≤ (c.scanHistory history contract).confidence ↔
        0 ≤ ((c.firedChecks history contract).map Prod.fst).sum)) ∧
    ((∀ rule ∈ c.sourceRules, 0 ≤ rule.weight) →
      ∀ source, 0 ≤ (c.scanSource source).confidence) ∧
    (0 ≤ c.history.drainWeight → 0 ≤ c.history.ownerWeight → 0 ≤ c.history.failedWeight →
      ∀ history contract, 0 ≤ (c.scanHistory history contract).confidence) := by
  refine ⟨?_, ?_, ?_, ?_, ?_, ?_⟩
  · intro code
    rw [confidence_scanCode]
    exact ⟨le_max_left _ _, max_le zero_le_one (min_le_right _ _)⟩
  · intro abi
    rw [confidence_scanAbi]
    exact ⟨le_max_left _ _, max_le zero_le_one (min_le_right _ _)⟩
  · intro source
    rw [confidence_scanSource]
    exact ⟨min_le_right _ _, Scalar.min_one_nonneg_iff⟩
  · intro history contract
    rw [confidence_scanHistory]
    exact ⟨min_le_right _ _, Scalar.min_one_nonneg_iff⟩
  · intro h source
    rw [confidence_scanSource, Scalar.min_one_nonneg_iff]
    apply List.sum_nonneg
    intro weight hweight
    obtain ⟨entry, hentry, rfl⟩ := List.mem_map.mp hweight
    obtain ⟨rule, hrule, rfl⟩ := List.mem_map.mp (List.mem_of_mem_filter hentry)
    exact h rule hrule
  · intro hdrain howner hfailed history contract
    rw [confidence_scanHistory, Scalar.min_one_nonneg_iff]
    apply List.sum_nonneg
    intro weight hweight
    obtain ⟨check, hcheck, rfl⟩ := List.mem_map.mp hweight
    exact c.weight_nonneg_of_mem_firedChecks hdrain howner hfailed check hcheck

theorem confidence_standard_nonneg :
    (∀ rule ∈ (standard : Config ℚ).sourceRules, 0 ≤ rule.weight) ∧
    (∀ source, 0 ≤ ((standard : Config ℚ).scanSource source).confidence) ∧
    0 ≤ (standard : Config ℚ).history.drainWeight ∧
    0 ≤ (standard : Config ℚ).history.ownerWeight ∧
    0 ≤ (standard : Config ℚ).history.failedWeight ∧
    ∀ history contract, 0 ≤ ((standard : Config ℚ).scanHistory history contract).confidence := by
  have hrules : ∀ rule ∈ (standard : Config ℚ).sourceRules, 0 ≤ rule.weight := by
    intro rule hrule
    simp only [standard, SourceRule.standard, List.mem_cons, List.not_mem_nil, or_false] at hrule
    rcases hrule with rfl | rfl | rfl | rfl <;> exact Scalar.percent_nonneg _
  have hdrain : 0 ≤ (standard : Config ℚ).history.drainWeight := Scalar.percent_nonneg 50
  have howner : 0 ≤ (standard : Config ℚ).history.ownerWeight := Scalar.percent_nonneg 40
  have hfailed : 0 ≤ (standard : Config ℚ).history.failedWeight := Scalar.percent_nonneg 30
  obtain ⟨-, -, -, -, hsource, hhistory⟩ := (standard : Config ℚ).confidence_nonneg_iff
  exact ⟨hrules, hsource hrules, hdrain, howner, hfailed, hhistory hdrain howner hfailed⟩

/-- A configuration in which a letter in a source, and payments to the owner only, count in favour
of a contract. -/
def relieving : Config ℚ :=
  { (standard : Config ℚ) with
    sourceRules := [.known "relief" "a" (-1 / 2) "Relief"]
    history := { (HistoryRules.standard : HistoryRules ℚ) with ownerWeight := -2 / 5 } }

theorem confidence_relieving_neg :
    (relieving.scanSource "a").confidence < 0 ∧
    (relieving.scanHistory [.transfer ⟨1⟩ ⟨7⟩ ⟨7⟩ ⟨1⟩ 0] ⟨7⟩).confidence < 0 := by
  decide +kernel

end Config

end Honeypot
