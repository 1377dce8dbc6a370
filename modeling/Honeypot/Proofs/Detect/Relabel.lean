import Honeypot.Proofs.Detect.Drains
import Mathlib.Data.List.Basic

namespace Honeypot

open Honeypot.Json

theorem filter_map_of_forall {α β : Type} {f : α → β} {p : α → Bool} {q : β → Bool}
    {list : List α} (h : ∀ a ∈ list, q (f a) = p a) :
    (list.map f).filter q = (list.filter p).map f := by
  rw [List.filter_map]
  congr 1
  exact List.filter_congr h

variable {K : Type}

/-- What a history shows of itself to the checks for a contract, and to a reader of their
finding. -/
structure HistorySigns (K : Type) where
  count : Nat
  owner : Address
  drains : List (Value K)
  outgoing : Nat
  ownerOnly : Bool
  failures : Option (K × Nat)

def HistoryRules.signs [Scalar K] (rules : HistoryRules K) (owner : Address)
    (history : List Transaction) (contract : Address) : HistorySigns K :=
  let outgoing := history.filter (·.isWithdrawal contract)
  { count := history.length
    owner
    drains := (rules.drains history contract).map drainValue
    outgoing := outgoing.length
    ownerOnly := paysOnly owner outgoing
    failures := rules.failures? history contract }

def HistorySigns.tallies (signs : HistorySigns K) : List (String × Value K) :=
  [("outgoing_value_count", .ofNat signs.outgoing),
    ("owner_only_withdrawals", .bool signs.ownerOnly),
    ("failed_ratio", Value.ofOption (.real ·.1) signs.failures)] ++
  signs.failures.toList.map fun f => ("failed_ratio_samples", .ofNat f.2)

namespace Config

variable [Scalar K] (c : Config K)

def firedOn (signs : HistorySigns K) : List (K × String) :=
  (if signs.drains.isEmpty then [] else [(c.history.drainWeight, c.history.drainTechnique)]) ++
  (if signs.ownerOnly then [(c.history.ownerWeight, c.history.ownerTechnique)] else []) ++
  (if signs.failures.any (Scalar.le c.history.failedShare ·.1) then
    [(c.history.failedWeight, c.history.failedTechnique)] else [])

def findingOn (signs : HistorySigns K) : Finding K :=
  { name := Detector.history.name
    confidence := Scalar.capAtOne (((c.firedOn signs).map Prod.fst).foldl (· + ·) Scalar.zero)
    techniques := StringSet.ofList ((c.firedOn signs).map Prod.snd)
    evidence := StringMap.ofList (
      ("transaction_count", .ofNat signs.count) ::
      ("quick_drain_pairs", .array signs.drains) ::
      ("likely_owner", .text signs.owner.checksummed) ::
      signs.tallies) }

theorem scanHistory_cons (first : Transaction) (rest : List Transaction) (contract : Address) :
    c.scanHistory (first :: rest) contract =
      c.findingOn (c.history.signs first.sender (first :: rest) contract) := by
  simp only [scanHistory, findingOn, firedOn, HistorySigns.tallies, HistoryRules.signs,
    List.isEmpty_map]
  rfl

end Config

/-- A change of the transactions in a history that the checks for a contract do not see, if they
are made for the changed contract after it. -/
structure HistoryRules.Relabels (rules : HistoryRules K) (f : Transaction → Transaction)
    (history : List Transaction) (contract contract' : Address) : Prop where
  sentTo : ∀ t ∈ history, (f t).isSentTo contract' = t.isSentTo contract
  sentFrom : ∀ t ∈ history, (f t).isSentFrom contract' = t.isSentFrom contract
  value : ∀ t ∈ history, (f t).value = t.value
  succeeded : ∀ t ∈ history, (f t).succeeded = t.succeeded
  isDrain : ∀ d ∈ history, ∀ w ∈ history, rules.isDrain (f d) (f w) = rules.isDrain d w

namespace HistoryRules.Relabels

variable {rules : HistoryRules K} {f : Transaction → Transaction} {history : List Transaction}
  {contract contract' : Address}

theorem deposits (h : rules.Relabels f history contract contract') :
    (history.map f).filter (·.isDeposit contract') =
      (history.filter (·.isDeposit contract)).map f := by
  apply filter_map_of_forall
  intro t ht
  simp only [Transaction.isDeposit, Transaction.carriesValue, h.sentTo t ht, h.value t ht]

theorem withdrawals (h : rules.Relabels f history contract contract') :
    (history.map f).filter (·.isWithdrawal contract') =
      (history.filter (·.isWithdrawal contract)).map f := by
  apply filter_map_of_forall
  intro t ht
  simp only [Transaction.isWithdrawal, Transaction.carriesValue, h.sentFrom t ht, h.value t ht]

theorem drains (h : rules.Relabels f history contract contract') :
    rules.drains (history.map f) contract' =
      (rules.drains history contract).map (Prod.map f f) := by
  simp only [HistoryRules.drains, h.deposits, h.withdrawals, List.flatMap_map, List.map_flatMap]
  refine List.flatMap_congr fun deposit hdeposit => ?_
  have hdrained : ((history.filter (·.isWithdrawal contract)).map f).filter
      (rules.isDrain (f deposit)) =
        ((history.filter (·.isWithdrawal contract)).filter (rules.isDrain deposit)).map f := by
    apply filter_map_of_forall
    intro withdrawal hwithdrawal
    exact h.isDrain _ (List.mem_of_mem_filter hdeposit) _ (List.mem_of_mem_filter hwithdrawal)
  rw [hdrained]
  simp

theorem receipts (h : rules.Relabels f history contract contract') :
    HistoryRules.receipts (history.map f) contract' =
      HistoryRules.receipts history contract := by
  rw [HistoryRules.receipts, filter_map_of_forall h.sentTo, List.filterMap_map]
  exact List.filterMap_congr fun t ht => h.succeeded t (List.mem_of_mem_filter ht)

theorem failures? [Scalar K] (h : rules.Relabels f history contract contract') :
    rules.failures? (history.map f) contract' = rules.failures? history contract := by
  rw [HistoryRules.failures?, HistoryRules.failures?, h.receipts]

/-- Signs change with the owner only, where the owner is the recipient of the same transactions,
and the same is told of the drains. -/
theorem signs [Scalar K] (h : rules.Relabels f history contract contract')
    (owner owner' : Address)
    (howner : ∀ t ∈ history, (f t).isSentTo owner' = t.isSentTo owner)
    (htold : ∀ d ∈ history, ∀ w ∈ history, rules.isDrain d w = true →
      drainValue (K := K) (f d, f w) = drainValue (d, w)) :
    rules.signs owner' (history.map f) contract' =
      { rules.signs owner history contract with owner := owner' } := by
  have hdrains : (rules.drains (history.map f) contract').map (drainValue (K := K)) =
      (rules.drains history contract).map drainValue := by
    rw [h.drains, List.map_map]
    refine List.map_congr_left fun ⟨deposit, withdrawal⟩ hdrain => ?_
    obtain ⟨⟨hdeposit, -⟩, ⟨hwithdrawal, -⟩, hisDrain⟩ := mem_drains_iff.mp hdrain
    exact htold deposit hdeposit withdrawal hwithdrawal hisDrain
  have hpays : paysOnly owner' ((history.filter (·.isWithdrawal contract)).map f) =
      paysOnly owner (history.filter (·.isWithdrawal contract)) := by
    have hall : ((history.filter (·.isWithdrawal contract)).map f).all (·.isSentTo owner') =
        (history.filter (·.isWithdrawal contract)).all (·.isSentTo owner) := by
      rw [List.all_map, Bool.eq_iff_iff, List.all_eq_true, List.all_eq_true]
      refine forall₂_congr fun t ht => ?_
      rw [Function.comp_apply, howner t (List.mem_of_mem_filter ht)]
    rw [paysOnly, paysOnly, List.isEmpty_map, hall]
  simp only [HistoryRules.signs, hdrains, h.withdrawals, hpays, h.failures?, List.length_map]

end HistoryRules.Relabels

theorem Config.scanHistory_map [Scalar K] (c : Config K) {f : Transaction → Transaction}
    {first : Transaction} {rest : List Transaction} {contract contract' : Address}
    (h : c.history.Relabels f (first :: rest) contract contract')
    (howner : ∀ t ∈ first :: rest, (f t).isSentTo (f first).sender = t.isSentTo first.sender)
    (htold : ∀ d ∈ first :: rest, ∀ w ∈ first :: rest, c.history.isDrain d w = true →
      drainValue (K := K) (f d, f w) = drainValue (d, w)) :
    c.scanHistory ((first :: rest).map f) contract' =
      c.findingOn { c.history.signs first.sender (first :: rest) contract with
        owner := (f first).sender } := by
  rw [List.map_cons, scanHistory_cons, ← List.map_cons]
  exact congrArg c.findingOn (h.signs first.sender (f first).sender howner htold)

/-- A transaction without the parts that no check reads. -/
def Transaction.bare (t : Transaction) : Transaction := { t with input := "", blockNumber := 0 }

theorem relabels_bare (rules : HistoryRules K) (history : List Transaction) (contract : Address) :
    rules.Relabels Transaction.bare history contract contract where
  sentTo _ _ := rfl
  sentFrom _ _ := rfl
  value _ _ := rfl
  succeeded _ _ := rfl
  isDrain _ _ _ _ := rfl

theorem Config.scanHistory_map_bare [Scalar K] (c : Config K) (history : List Transaction)
    (contract : Address) :
    c.scanHistory (history.map Transaction.bare) contract = c.scanHistory history contract := by
  cases history with
  | nil => rfl
  | cons first rest =>
      rw [c.scanHistory_map (relabels_bare c.history (first :: rest) contract) (fun _ _ => rfl)
        (fun _ _ _ _ _ => rfl), scanHistory_cons]
      rfl

end Honeypot
