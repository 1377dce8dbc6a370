import Honeypot.Proofs.Chain.Hex
import Honeypot.Proofs.Detect.Shape
import Honeypot.Proofs.Number.Exact
import Mathlib.Algebra.BigOperators.Group.Finset.Basic

namespace Honeypot

open Honeypot.Json

inductive HistoryCheck
  | drain
  | ownerOnly
  | failures
deriving DecidableEq

namespace HistoryCheck

def all : List HistoryCheck := [.drain, .ownerOnly, .failures]

theorem mem_all (check : HistoryCheck) : check ∈ all := by cases check <;> decide

variable {K : Type}

def weight (rules : HistoryRules K) : HistoryCheck → K
  | .drain => rules.drainWeight
  | .ownerOnly => rules.ownerWeight
  | .failures => rules.failedWeight

def technique (rules : HistoryRules K) : HistoryCheck → String
  | .drain => rules.drainTechnique
  | .ownerOnly => rules.ownerTechnique
  | .failures => rules.failedTechnique

end HistoryCheck

def HistorySigns.fires {K : Type} [Scalar K] (signs : HistorySigns K) (rules : HistoryRules K) :
    HistoryCheck → Bool
  | .drain => !signs.drains.isEmpty
  | .ownerOnly => signs.ownerOnly
  | .failures => signs.failures.any (Scalar.le rules.failedShare ·.1)

/-- What is to be seen in the evidence of a finding if a check fired. -/
def Finding.Shows (f : Finding ℚ) (rules : HistoryRules ℚ) : HistoryCheck → Prop
  | .drain => ∃ pairs, f.evidence.find? "quick_drain_pairs" = some (.array pairs) ∧ pairs ≠ []
  | .ownerOnly => f.evidence.find? "owner_only_withdrawals" = some (.bool true)
  | .failures => ∃ ratio, f.evidence.find? "failed_ratio" = some (.real ratio) ∧
      rules.failedShare ≤ ratio

/-- The evidence of a finding shows which checks fired. The techniques are those of the checks
that fired, and the confidence is the sum of their weights or one, whichever is less. -/
structure Finding.Explained (f : Finding ℚ) (rules : HistoryRules ℚ)
    (fired : Finset HistoryCheck) : Prop where
  mem_fired_iff : ∀ check, check ∈ fired ↔ f.Shows rules check
  mem_techniques_iff : ∀ technique, technique ∈ f.techniques.toList ↔
    ∃ check ∈ fired, check.technique rules = technique
  confidence_eq : f.confidence = min 1 (∑ check ∈ fired, check.weight rules)

namespace HistoryRules

def knownReceipts (history : List Transaction) (contract : Address) : ℕ :=
  history.countP fun t => t.recipient = some contract ∧ t.succeeded ≠ none

def failedReceipts (history : List Transaction) (contract : Address) : ℕ :=
  history.countP fun t => t.recipient = some contract ∧ t.succeeded = some false

/-- There are no receipts, or fewer than are asked for. -/
def TooFewReceipts {K : Type} (rules : HistoryRules K) (history : List Transaction)
    (contract : Address) : Prop :=
  knownReceipts history contract = 0 ∨
    knownReceipts history contract < rules.failedSamples.toNat

/-- Money goes out of a contract, and all of it goes to one account. A creation has no
recipient. -/
def PaysOnly (history : List Transaction) (contract owner : Address) : Prop :=
  (∃ t ∈ history, t.sender = contract ∧ t.value.toNat ≠ 0) ∧
    ∀ t ∈ history, t.sender = contract → t.value.toNat ≠ 0 → t.recipient = some owner

end HistoryRules

/-- The evidence of a finding tells what is to be counted in a history, with its first sender
taken for the owner. -/
structure Finding.Tells (f : Finding ℚ) (rules : HistoryRules ℚ) (history : List Transaction)
    (contract owner : Address) : Prop where
  count : f.evidence.find? "transaction_count" = some (.ofNat history.length)
  drains : f.evidence.find? "quick_drain_pairs" =
    some (.array ((rules.drains history contract).map drainValue))
  likelyOwner : ∃ text, f.evidence.find? "likely_owner" = some (.text text) ∧
    text = owner.checksummed ∧ Address.ofTree? (.text (some text)) = some owner
  outgoing : f.evidence.find? "outgoing_value_count" = some (.ofNat
    (history.countP fun t => t.sender = contract ∧ t.value.toNat ≠ 0))
  ownerOnly : ∃ paysOnly, f.evidence.find? "owner_only_withdrawals" = some (.bool paysOnly) ∧
    (paysOnly = true ↔ HistoryRules.PaysOnly history contract owner)
  failures_null_iff : f.evidence.find? "failed_ratio" = some .null ↔
    rules.TooFewReceipts history contract
  failures_real : ¬rules.TooFewReceipts history contract → ∃ ratio : ℚ,
    f.evidence.find? "failed_ratio" = some (.real ratio) ∧
    ratio = HistoryRules.failedReceipts history contract /
      HistoryRules.knownReceipts history contract ∧
    0 ≤ ratio ∧ ratio ≤ 1 ∧
    f.evidence.find? "failed_ratio_samples" =
      some (.ofNat (HistoryRules.knownReceipts history contract))

namespace HistoryRules

variable (rules : HistoryRules ℚ) (history : List Transaction) (contract : Address)

theorem length_receipts :
    (receipts history contract).length = knownReceipts history contract := by
  rw [receipts, List.length_filterMap_eq_countP, List.countP_filter, knownReceipts]
  refine List.countP_congr fun t _ => ?_
  simp [Transaction.isSentTo, Option.isSome_iff_ne_none, and_comm]

theorem countP_receipts :
    (receipts history contract).countP (!·) = failedReceipts history contract := by
  rw [receipts, List.countP_filterMap, List.countP_filter, failedReceipts]
  refine List.countP_congr fun t _ => ?_
  cases t.succeeded <;> simp [Transaction.isSentTo, and_comm]

theorem paysOnly_iff (owner : Address) :
    paysOnly owner (history.filter (·.isWithdrawal contract)) = true ↔
      PaysOnly history contract owner := by
  rw [paysOnly, Bool.and_eq_true, Bool.not_eq_true', List.isEmpty_eq_false_iff_exists_mem,
    List.all_eq_true]
  simp only [List.mem_filter, Transaction.isWithdrawal_iff, Transaction.isSentTo,
    decide_eq_true_eq, and_imp]
  rfl

theorem failures?_eq_none_iff :
    rules.failures? history contract = none ↔ rules.TooFewReceipts history contract := by
  rw [failures?, TooFewReceipts, ← length_receipts, List.length_eq_zero_iff]
  simp [or_iff_not_imp_left]

theorem failures?_of_not_tooFewReceipts (h : ¬rules.TooFewReceipts history contract) :
    rules.failures? history contract = some
      ((failedReceipts history contract / knownReceipts history contract : ℚ),
        knownReceipts history contract) := by
  rw [← failures?_eq_none_iff, failures?] at h
  rw [failures?]
  split
  · rename_i hfew
    exact absurd (if_pos hfew) h
  · rw [length_receipts, countP_receipts]
    rfl

theorem failedReceipts_le_knownReceipts :
    failedReceipts history contract ≤ knownReceipts history contract := by
  refine List.countP_mono_left fun t _ h => ?_
  simp only [decide_eq_true_eq] at h ⊢
  exact ⟨h.1, by simp [h.2]⟩

end HistoryRules

namespace Config

section Fired

variable {K : Type} [Scalar K] (c : Config K) (signs : HistorySigns K)

theorem firedOn_eq_map : c.firedOn signs = (HistoryCheck.all.filter (signs.fires c.history)).map
    fun check => (check.weight c.history, check.technique c.history) := by
  have hfilter : HistoryCheck.all.filter (signs.fires c.history) =
      (if signs.drains.isEmpty then [] else [.drain]) ++
      (if signs.ownerOnly then [.ownerOnly] else []) ++
      (if signs.failures.any (Scalar.le c.history.failedShare ·.1) then [.failures] else []) := by
    simp only [HistoryCheck.all, List.filter_cons, HistorySigns.fires]
    split_ifs <;> simp_all
  rw [hfilter, firedOn]
  split_ifs <;> rfl

theorem mem_techniques_findingOn {technique : String} :
    technique ∈ (c.findingOn signs).techniques.toList ↔
      ∃ check, signs.fires c.history check = true ∧ check.technique c.history = technique := by
  have h : (c.findingOn signs).techniques =
      StringSet.ofList ((c.firedOn signs).map Prod.snd) := rfl
  rw [h, StringSet.mem_toList_ofList, firedOn_eq_map, List.map_map, List.mem_map]
  simp only [List.mem_filter, HistoryCheck.mem_all, true_and]
  rfl

end Fired

variable (c : Config ℚ) (signs : HistorySigns ℚ)

theorem confidence_findingOn : (c.findingOn signs).confidence =
    min 1 ((HistoryCheck.all.filter (signs.fires c.history)).map (·.weight c.history)).sum := by
  have h : (c.findingOn signs).confidence = Scalar.capAtOne
      (((c.firedOn signs).map Prod.fst).foldl (· + ·) Scalar.zero) := rfl
  rw [h, Scalar.capAtOne_eq_min, Scalar.foldl_add_eq_sum, min_comm, firedOn_eq_map, List.map_map]
  rfl

theorem find?_evidence_findingOn :
    (c.findingOn signs).evidence.find? "transaction_count" = some (.ofNat signs.count) ∧
    (c.findingOn signs).evidence.find? "likely_owner" = some (.text signs.owner.checksummed) ∧
    (c.findingOn signs).evidence.find? "outgoing_value_count" = some (.ofNat signs.outgoing) ∧
    (c.findingOn signs).evidence.find? "owner_only_withdrawals" = some (.bool signs.ownerOnly) ∧
    (c.findingOn signs).evidence.find? "failed_ratio" =
      some (Value.ofOption (.real ·.1) signs.failures) ∧
    (c.findingOn signs).evidence.find? "failed_ratio_samples" =
      signs.failures.map (.ofNat ·.2) := by
  obtain ⟨count, owner, drains, outgoing, ownerOnly, failures⟩ := signs
  simp only [evidence_findingOn, StringMap.find?_ofList]
  cases failures <;> exact ⟨rfl, rfl, rfl, rfl, rfl, rfl⟩

theorem shows_findingOn_iff (check : HistoryCheck) :
    (c.findingOn signs).Shows c.history check ↔ signs.fires c.history check = true := by
  obtain ⟨-, -, -, hownerOnly, hfailures, -⟩ := c.find?_evidence_findingOn signs
  cases check with
  | drain =>
      simp only [Finding.Shows, find?_drains_findingOn, HistorySigns.fires, Option.some.injEq,
        Value.array.injEq, Bool.not_eq_true', List.isEmpty_eq_false_iff, exists_eq_left']
  | ownerOnly =>
      simp only [Finding.Shows, hownerOnly, HistorySigns.fires, Option.some.injEq,
        Value.bool.injEq]
  | failures =>
      have hle (a b : ℚ) : Scalar.le a b = decide (a ≤ b) := rfl
      simp only [Finding.Shows, hfailures, HistorySigns.fires, hle]
      cases signs.failures with
      | none => simp [Value.ofOption]
      | some f => simp [Value.ofOption]

theorem explained_findingOn : ∃ fired, (c.findingOn signs).Explained c.history fired := by
  have hmem (check : HistoryCheck) :
      check ∈ (HistoryCheck.all.filter (signs.fires c.history)).toFinset ↔
        signs.fires c.history check = true := by
    simp [HistoryCheck.mem_all]
  refine ⟨(HistoryCheck.all.filter (signs.fires c.history)).toFinset, ?_, ?_, ?_⟩
  · intro check
    rw [hmem, shows_findingOn_iff]
  · intro technique
    simp only [hmem]
    exact c.mem_techniques_findingOn signs
  · have hnodup : (HistoryCheck.all.filter (signs.fires c.history)).Nodup :=
      List.Nodup.filter _ (by decide)
    rw [confidence_findingOn, List.sum_toFinset _ hnodup]

theorem tells_findingOn (history : List Transaction) (contract owner : Address) :
    (c.findingOn (c.history.signs owner history contract)).Tells c.history history contract
      owner := by
  obtain ⟨hcount, howner, houtgoing, hownerOnly, hfailures, hsamples⟩ :=
    c.find?_evidence_findingOn (c.history.signs owner history contract)
  have hnull : Value.ofOption (.real ·.1) (c.history.failures? history contract) = .null ↔
      c.history.TooFewReceipts history contract := by
    rw [← HistoryRules.failures?_eq_none_iff]
    cases c.history.failures? history contract <;> simp [Value.ofOption]
  refine ⟨hcount, c.find?_drains_findingOn _, ⟨_, howner, rfl, owner.ofTree?_checksummed⟩,
    ?_, ?_, ?_, ?_⟩
  · rw [houtgoing, HistoryRules.signs, ← List.countP_eq_length_filter]
    simp only [← Transaction.isWithdrawal_iff, Bool.decide_eq_true]
  · exact ⟨_, hownerOnly, HistoryRules.paysOnly_iff history contract owner⟩
  · rw [hfailures, Option.some.injEq]
    exact hnull
  · intro hmany
    have hvalue := HistoryRules.failures?_of_not_tooFewReceipts c.history history contract hmany
    have hle : (HistoryRules.failedReceipts history contract : ℚ) ≤
        HistoryRules.knownReceipts history contract :=
      Nat.cast_le.mpr (HistoryRules.failedReceipts_le_knownReceipts history contract)
    refine ⟨_, ?_, rfl, div_nonneg (Nat.cast_nonneg _) (Nat.cast_nonneg _),
      div_le_one_of_le₀ hle (Nat.cast_nonneg _), ?_⟩
    · rw [hfailures, HistoryRules.signs, hvalue]
      rfl
    · rw [hsamples, HistoryRules.signs, hvalue]
      rfl

/-- A finding on transactions is explained by its evidence, which tells what is to be counted in
them. Of no transactions only their number is told, and nothing is found. -/
theorem scanHistory_explained (contract : Address) :
    (∀ first rest, ∃ fired,
      (c.scanHistory (first :: rest) contract).Explained c.history fired ∧
      (c.scanHistory (first :: rest) contract).Tells c.history (first :: rest) contract
        first.sender) ∧
    (c.scanHistory [] contract).confidence = 0 ∧
    (c.scanHistory [] contract).techniques.toList = [] ∧
    (c.scanHistory [] contract).evidence.entries = [("transaction_count", .int 0)] := by
  refine ⟨fun first rest => ?_, rfl, rfl, rfl⟩
  rw [scanHistory_cons]
  obtain ⟨fired, hfired⟩ := c.explained_findingOn
    (c.history.signs first.sender (first :: rest) contract)
  exact ⟨fired, hfired, c.tells_findingOn (first :: rest) contract first.sender⟩

end Config

end Honeypot
