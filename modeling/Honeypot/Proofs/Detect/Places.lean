import Honeypot.Proofs.Chain.Hex
import Honeypot.Proofs.Detect.Drains
import Honeypot.Proofs.Places

/-!
Which drains are listed, and in which order.

A history may hold one transaction in several places, and a transfer from the contract to itself
is a deposit and a withdrawal at once. So the drains are told apart by the places of their
transactions.
-/

namespace Honeypot

open Honeypot.Json

variable {K : Type}

/-- Money goes to a contract, and money that goes out of it later, but within the window, returns
the share, as far as the products of their comparison fit into an amount. -/
structure HistoryRules.Drains (rules : HistoryRules K) (contract : Address)
    (deposit withdrawal : Transaction) : Prop where
  deposit_recipient : deposit.recipient = some contract
  deposit_value : deposit.value.toNat ≠ 0
  withdrawal_sender : withdrawal.sender = contract
  withdrawal_value : withdrawal.value.toNat ≠ 0
  after : 0 < (withdrawal.timestamp.toNat : ℤ) - deposit.timestamp.toNat
  within : (withdrawal.timestamp.toNat : ℤ) - deposit.timestamp.toNat < rules.window.toNat
  share : min (deposit.value.toNat * rules.share.toNat) (2 ^ 256 - 1) ≤
    min (withdrawal.value.toNat * 10000) (2 ^ 256 - 1)

def drainRecord [Scalar K] (deposit withdrawal : Transaction) : Value K :=
  .object [
    ("deposit_hash", .text deposit.hash.write),
    ("deposit_value", .text deposit.value.decimal),
    ("elapsed_secs", .int ((withdrawal.timestamp.toNat : ℤ) - deposit.timestamp.toNat)),
    ("withdrawal_eth", .real withdrawal.value.toEther),
    ("withdrawal_hash", .text withdrawal.hash.write),
    ("withdrawal_value", .text withdrawal.value.decimal)]

/-- A record holds a text under a name, and the text is of some kind. -/
def HasText (record : Value K) (name : String) (kind : String → Prop) : Prop :=
  ∃ members text, record = .object members ∧ members.lookup name = some (.text text) ∧ kind text

/-- The hashes and the amounts of a deposit and a withdrawal can be read off a record. -/
structure TellsDrain (record : Value K) (deposit withdrawal : Transaction) : Prop where
  deposit_hash : HasText record "deposit_hash"
    fun text => TxHash.ofTree? (.text (some text)) = some deposit.hash
  deposit_value : HasText record "deposit_value" (Wei.IsAmount · deposit.value)
  withdrawal_hash : HasText record "withdrawal_hash"
    fun text => TxHash.ofTree? (.text (some text)) = some withdrawal.hash
  withdrawal_value : HasText record "withdrawal_value" (Wei.IsAmount · withdrawal.value)

theorem tellsDrain_drainRecord [Scalar K] (deposit withdrawal : Transaction) :
    TellsDrain (drainRecord (K := K) deposit withdrawal) deposit withdrawal where
  deposit_hash := ⟨_, _, rfl, rfl, deposit.hash.ofTree?_write⟩
  deposit_value := ⟨_, _, rfl, rfl, deposit.value.isAmount_decimal⟩
  withdrawal_hash := ⟨_, _, rfl, rfl, withdrawal.hash.ofTree?_write⟩
  withdrawal_value := ⟨_, _, rfl, rfl, withdrawal.value.isAmount_decimal⟩

namespace HistoryRules

variable {rules : HistoryRules K} {contract : Address} {deposit withdrawal : Transaction}

theorem drains_iff : rules.Drains contract deposit withdrawal ↔
    deposit.isDeposit contract = true ∧ withdrawal.isWithdrawal contract = true ∧
      rules.isDrain deposit withdrawal = true := by
  have hshare : deposit.value.saturatingMul rules.share.toNat ≤
      withdrawal.value.saturatingMul 10000 ↔
        min (deposit.value.toNat * rules.share.toNat) (2 ^ 256 - 1) ≤
          min (withdrawal.value.toNat * 10000) (2 ^ 256 - 1) := Iff.rfl
  rw [Transaction.isDeposit_iff, Transaction.isWithdrawal_iff, isDrain_iff_saturatingMul, hshare]
  constructor
  · intro h
    have hafter := h.after
    have hwithin := h.within
    exact ⟨⟨h.deposit_recipient, h.deposit_value⟩, ⟨h.withdrawal_sender, h.withdrawal_value⟩,
      by omega, by omega, h.share⟩
  · rintro ⟨⟨hrecipient, hdeposit⟩, ⟨hsender, hwithdrawal⟩, hafter, hwithin, hshare⟩
    exact ⟨hrecipient, hdeposit, hsender, hwithdrawal, by omega, by omega, hshare⟩

theorem Drains.drainValue_eq [Scalar K] (h : rules.Drains contract deposit withdrawal) :
    drainValue (K := K) (deposit, withdrawal) = drainRecord deposit withdrawal := by
  have hafter : deposit.timestamp.toNat ≤ withdrawal.timestamp.toNat := by
    have := h.after
    omega
  have helapsed : ((withdrawal.timestamp - deposit.timestamp).toNat : ℤ) =
      (withdrawal.timestamp.toNat : ℤ) - deposit.timestamp.toNat := by
    rw [UInt64.toNat_sub_of_le _ _ (UInt64.le_iff_toNat_le.mpr hafter), Int.ofNat_sub hafter]
  rw [drainRecord, ← helapsed]
  rfl

-- A transaction is not later than itself.
theorem not_drains_self : ¬rules.Drains contract deposit deposit := by
  intro h
  have := h.after
  omega

/-- The places of the deposits and of the withdrawals that drain them. -/
def drainPlaces (rules : HistoryRules K) (history : List Transaction) (contract : Address) :
    List (Fin history.length × Fin history.length) :=
  ((List.finRange history.length).filter fun i => history[i].isDeposit contract).flatMap fun i =>
    (((List.finRange history.length).filter fun j => history[j].isWithdrawal contract).filter
      fun j => rules.isDrain history[i] history[j]).map fun j => (i, j)

variable (rules) (history : List Transaction) (contract)

theorem drainPlaces_eq : rules.drainPlaces history contract =
    pairPlaces history history fun deposit withdrawal => deposit.isDeposit contract &&
      (rules.isDrain deposit withdrawal && withdrawal.isWithdrawal contract) := by
  simp only [drainPlaces, List.filter_filter, filter_flatMap_filter]
  rfl

theorem mem_drainPlaces_iff {i j : Fin history.length} :
    (i, j) ∈ rules.drainPlaces history contract ↔
      rules.Drains contract history[i] history[j] := by
  rw [drainPlaces_eq, mem_pairPlaces_iff, drains_iff, Bool.and_eq_true, Bool.and_eq_true]
  exact and_congr_right' and_comm

theorem pairwise_drainPlaces :
    (rules.drainPlaces history contract).Pairwise (Prod.Lex (· < ·) (· < ·)) := by
  rw [drainPlaces_eq]
  exact pairwise_pairPlaces

theorem drains_eq_map_drainPlaces : rules.drains history contract =
    (rules.drainPlaces history contract).map fun (i, j) => (history[i], history[j]) := by
  rw [drainPlaces_eq, ← pairs_eq_map_pairPlaces]
  simp only [drains, List.filter_filter, filter_flatMap_filter]

/-- What is told of drains are the records of all deposits and withdrawals that drain them, each
pair of places once, in the order of the places of the deposits and then of the withdrawals. The
hashes and the amounts of both can be read off a record. -/
theorem drains_recorded_once [Scalar K] :
    ∃ places : List (Fin history.length × Fin history.length),
      places.Pairwise (Prod.Lex (· < ·) (· < ·)) ∧
      (∀ i j, (i, j) ∈ places ↔ rules.Drains contract history[i] history[j]) ∧
      (∀ i, (i, i) ∉ places) ∧
      (rules.drains history contract).map (drainValue (K := K)) =
        places.map (fun (i, j) => drainRecord history[i] history[j]) ∧
      ∀ i j, (i, j) ∈ places →
        TellsDrain (drainRecord (K := K) history[i] history[j]) history[i] history[j] := by
  refine ⟨rules.drainPlaces history contract, rules.pairwise_drainPlaces contract history,
    fun i j => rules.mem_drainPlaces_iff contract history, ?_, ?_,
    fun i j _ => tellsDrain_drainRecord history[i] history[j]⟩
  · intro i hi
    exact not_drains_self ((rules.mem_drainPlaces_iff contract history).mp hi)
  · rw [drains_eq_map_drainPlaces, List.map_map]
    refine List.map_congr_left fun ⟨i, j⟩ hplace => ?_
    exact ((rules.mem_drainPlaces_iff contract history).mp hplace).drainValue_eq

end HistoryRules

end Honeypot
