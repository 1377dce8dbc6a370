import Honeypot.Proofs.Detect.Explanation
import Honeypot.Proofs.Detect.Places
import Honeypot.Proofs.Number.Order
import Mathlib.Data.List.Flatten
import Mathlib.Data.List.Forall2

namespace Honeypot

open Honeypot.Json

theorem Wei.saturatingMul_mono {a b : Wei} {m n : ℕ} (hab : a.toNat ≤ b.toNat) (hmn : m ≤ n) :
    a.saturatingMul m ≤ b.saturatingMul n :=
  min_le_min_right _ (Nat.mul_le_mul hab hmn)

/-- The value of a transaction changes in favour of a drain, if it changes at all: more goes out
of a contract, or less comes in but not nothing. What does both keeps its value. -/
inductive Transaction.EasesDrain (contract : Address) : Transaction → Transaction → Prop
  | unchanged {t} : EasesDrain contract t t
  | raised {t value} (hout : t.sender = contract) (hnotin : t.recipient ≠ some contract)
      (hle : t.value.toNat ≤ value.toNat) : EasesDrain contract t { t with value }
  | lowered {t value} (hin : t.recipient = some contract) (hnotout : t.sender ≠ contract)
      (hne : value.toNat ≠ 0) (hle : value.toNat ≤ t.value.toNat) :
      EasesDrain contract t { t with value }

namespace HistoryRules

variable {K : Type}

/-- Rules under the same labels that ask for less: for drains within a longer time and of a
smaller share, and for a smaller share of failures out of fewer calls. -/
structure Looser [Scalar K] (loose strict : HistoryRules K) : Prop where
  drainTechnique : loose.drainTechnique = strict.drainTechnique
  ownerTechnique : loose.ownerTechnique = strict.ownerTechnique
  failedTechnique : loose.failedTechnique = strict.failedTechnique
  window : strict.window ≤ loose.window
  share : loose.share ≤ strict.share
  failedShare : Scalar.le loose.failedShare strict.failedShare = true
  failedSamples : loose.failedSamples ≤ strict.failedSamples

section Drains

variable {rules loose : HistoryRules K} {contract : Address} {d d' w w' : Transaction}

theorem isDrain_mono (hwindow : rules.window ≤ loose.window) (hshare : loose.share ≤ rules.share)
    (hdtime : d'.timestamp = d.timestamp) (hwtime : w'.timestamp = w.timestamp)
    (hd : d'.value.toNat ≤ d.value.toNat) (hw : w.value.toNat ≤ w'.value.toNat)
    (h : rules.isDrain d w = true) : loose.isDrain d' w' = true := by
  rw [isDrain_iff_saturatingMul] at h ⊢
  obtain ⟨hafter, hwithin, hproducts⟩ := h
  rw [hdtime, hwtime]
  refine ⟨hafter, hwithin.trans_le (UInt64.le_iff_toNat_le.mp hwindow), ?_⟩
  calc d'.value.saturatingMul loose.share.toNat
    _ ≤ d.value.saturatingMul rules.share.toNat :=
      Wei.saturatingMul_mono hd (UInt64.le_iff_toNat_le.mp hshare)
    _ ≤ w.value.saturatingMul 10000 := hproducts
    _ ≤ w'.value.saturatingMul 10000 := Wei.saturatingMul_mono hw le_rfl

theorem Drains.eased (h : rules.Drains contract d w) (hd : d.EasesDrain contract d')
    (hw : w.EasesDrain contract w') : rules.Drains contract d' w' := by
  -- Only what goes out and does not come in is raised, and the other way round.
  obtain ⟨hrecipient, hdtime, hdvalue, hdle⟩ : d'.recipient = some contract ∧
      d'.timestamp = d.timestamp ∧ d'.value.toNat ≠ 0 ∧ d'.value.toNat ≤ d.value.toNat := by
    cases hd with
    | unchanged => exact ⟨h.deposit_recipient, rfl, h.deposit_value, le_rfl⟩
    | raised _ hnotin _ => exact absurd h.deposit_recipient hnotin
    | lowered hin _ hne hle => exact ⟨hin, rfl, hne, hle⟩
  obtain ⟨hsender, hwtime, hwle⟩ : w'.sender = contract ∧
      w'.timestamp = w.timestamp ∧ w.value.toNat ≤ w'.value.toNat := by
    cases hw with
    | unchanged => exact ⟨h.withdrawal_sender, rfl, le_rfl⟩
    | raised hout _ hle => exact ⟨hout, rfl, hle⟩
    | lowered _ hnotout _ _ => exact absurd h.withdrawal_sender hnotout
  have hwvalue : w'.value.toNat ≠ 0 := by
    have := h.withdrawal_value
    omega
  rw [drains_iff]
  exact ⟨Transaction.isDeposit_iff.mpr ⟨hrecipient, hdvalue⟩,
    Transaction.isWithdrawal_iff.mpr ⟨hsender, hwvalue⟩,
    isDrain_mono (UInt64.le_refl _) (UInt64.le_refl _) hdtime hwtime hdle hwle
      (drains_iff.mp h).2.2⟩

theorem mem_drainPlaces_eased {history history' : List Transaction}
    (h : List.Forall₂ (Transaction.EasesDrain contract) history history')
    {i j : Fin history.length} (hmem : (i, j) ∈ rules.drainPlaces history contract) :
    (i.cast h.length_eq, j.cast h.length_eq) ∈ rules.drainPlaces history' contract := by
  rw [mem_drainPlaces_iff] at hmem ⊢
  exact hmem.eased (h.get i.isLt (i.cast h.length_eq).isLt)
    (h.get j.isLt (j.cast h.length_eq).isLt)

end Drains

namespace Looser

variable [Scalar K] {loose strict : HistoryRules K} (h : loose.Looser strict)
  (history : List Transaction) (contract : Address)

include h

theorem drains_sublist :
    (strict.drains history contract).Sublist (loose.drains history contract) := by
  refine List.Sublist.flatMap_right _ fun deposit _ => List.Sublist.map _ ?_
  exact List.monotone_filter_right _ fun withdrawal hdrain =>
    isDrain_mono h.window h.share rfl rfl le_rfl le_rfl hdrain

/-- Where there are enough calls for the stricter rules, the looser ones see the same failures. -/
theorem failures?_eq {failures : K × ℕ}
    (hfailures : strict.failures? history contract = some failures) :
    loose.failures? history contract = some failures := by
  rw [← hfailures]
  rw [failures?] at hfailures
  split at hfailures
  · cases hfailures
  · rename_i henough
    have hloose : ¬((receipts history contract).isEmpty ||
        decide ((receipts history contract).length < loose.failedSamples.toNat)) = true := by
      have hsamples := UInt64.le_iff_toNat_le.mp h.failedSamples
      simp only [Bool.or_eq_true, decide_eq_true_eq, not_or, not_lt] at henough ⊢
      exact ⟨henough.1, hsamples.trans henough.2⟩
    rw [failures?, failures?, if_neg henough, if_neg hloose]

theorem technique_eq (check : HistoryCheck) : check.technique loose = check.technique strict := by
  cases check with
  | drain => exact h.drainTechnique
  | ownerOnly => exact h.ownerTechnique
  | failures => exact h.failedTechnique

theorem fires [Scalar.TransitiveLe K] {owner : Address} {check : HistoryCheck}
    (hfires : (strict.signs owner history contract).fires strict check = true) :
    (loose.signs owner history contract).fires loose check = true := by
  cases check with
  | drain =>
      have hsublist := (h.drains_sublist history contract).map (drainValue (K := K))
      simp only [HistorySigns.fires, signs, Bool.not_eq_true', List.isEmpty_eq_false_iff]
        at hfires ⊢
      exact fun hnil => hfires (List.sublist_nil.mp (hnil ▸ hsublist))
  | ownerOnly => exact hfires
  | failures =>
      obtain ⟨failures, hfailures, hshare⟩ := (Option.any_eq_true _ _).mp hfires
      exact (Option.any_eq_true _ _).mpr ⟨failures, h.failures?_eq history contract hfailures,
        Scalar.TransitiveLe.le_trans h.failedShare hshare⟩

end Looser

end HistoryRules

namespace Config

variable {K : Type} [Scalar K] {c c' : Config K} (h : c'.history.Looser c.history)
  (history : List Transaction) (contract : Address)

include h

theorem told_drains_sublist_of_looser {pairs : List (Value K)}
    (hpairs : (c.scanHistory history contract).evidence.find? "quick_drain_pairs" =
      some (.array pairs)) :
    ∃ pairs', (c'.scanHistory history contract).evidence.find? "quick_drain_pairs" =
      some (.array pairs') ∧ pairs.Sublist pairs' := by
  cases history with
  | nil => cases hpairs
  | cons first rest =>
      rw [scanHistory_cons, find?_drains_findingOn, Option.some.injEq,
        Value.array.injEq] at hpairs
      subst hpairs
      rw [scanHistory_cons, find?_drains_findingOn]
      exact ⟨_, rfl, (h.drains_sublist (first :: rest) contract).map _⟩

theorem techniques_subset_of_looser [Scalar.TransitiveLe K] :
    (c.scanHistory history contract).techniques.toList ⊆
      (c'.scanHistory history contract).techniques.toList := by
  cases history with
  | nil => exact List.Subset.refl _
  | cons first rest =>
      intro technique htechnique
      rw [scanHistory_cons, mem_techniques_findingOn] at htechnique ⊢
      obtain ⟨check, hfires, rfl⟩ := htechnique
      exact ⟨check, h.fires (first :: rest) contract hfires, h.technique_eq check⟩

omit h

/-- Rules that ask for less lose no drain and no technique. And if the values of a history change
in favour of drains then no drain is lost, by the places at which its transactions are listed. -/
theorem scanHistory_keeps_when_loosened [Scalar.TransitiveLe K] (c : Config K)
    (history : List Transaction) (contract : Address) :
    (∀ c' : Config K, c'.history.Looser c.history →
      (c.history.drains history contract).Sublist (c'.history.drains history contract) ∧
      (∀ pairs, (c.scanHistory history contract).evidence.find? "quick_drain_pairs" =
          some (.array pairs) →
        ∃ pairs', (c'.scanHistory history contract).evidence.find? "quick_drain_pairs" =
          some (.array pairs') ∧ pairs.Sublist pairs') ∧
      (c.scanHistory history contract).techniques.toList ⊆
        (c'.scanHistory history contract).techniques.toList) ∧
    (∀ history', c.history.drains history' contract =
      (c.history.drainPlaces history' contract).map fun place =>
        (history'[place.1], history'[place.2])) ∧
    ∀ history' (h : List.Forall₂ (Transaction.EasesDrain contract) history history') (i j),
      (i, j) ∈ c.history.drainPlaces history contract →
      (i.cast h.length_eq, j.cast h.length_eq) ∈ c.history.drainPlaces history' contract :=
  ⟨fun _ h => ⟨h.drains_sublist history contract,
      fun _ hpairs => told_drains_sublist_of_looser h history contract hpairs,
      techniques_subset_of_looser h history contract⟩,
    fun history' => c.history.drains_eq_map_drainPlaces contract history',
    fun _ h _ _ hmem => HistoryRules.mem_drainPlaces_eased h hmem⟩

def lenient (K : Type) [Scalar K] : Config K :=
  { (standard : Config K) with
    history := { (HistoryRules.standard : HistoryRules K) with
      window := 600, share := 5000, failedShare := Scalar.percent 25, failedSamples := 1 } }

theorem scanHistory_keeps_lenient :
    ((lenient Float).history.Looser (standard : Config Float).history ∧
      ((standard : Config Float).scanHistory (refunds ⟨6⟩ ⟨9⟩) ⟨7⟩).techniques.toList ⊆
        ((lenient Float).scanHistory (refunds ⟨6⟩ ⟨9⟩) ⟨7⟩).techniques.toList) ∧
    List.Forall₂ (Transaction.EasesDrain ⟨7⟩) (refunds ⟨6⟩ ⟨9⟩)
      (refunds ⟨6⟩ ⟨BitVec.allOnes 256⟩) ∧
    (⟨0, by decide⟩, ⟨2, by decide⟩) ∈
      (standard : Config Float).history.drainPlaces (refunds ⟨6⟩ ⟨9⟩) ⟨7⟩ ∧
    (⟨0, by decide⟩, ⟨2, by decide⟩) ∈
      (standard : Config Float).history.drainPlaces (refunds ⟨6⟩ ⟨BitVec.allOnes 256⟩) ⟨7⟩ := by
  obtain ⟨hlooser, -, heased⟩ :=
    (standard : Config Float).scanHistory_keeps_when_loosened (refunds ⟨6⟩ ⟨9⟩) ⟨7⟩
  have hlenient : (lenient Float).history.Looser (standard : Config Float).history :=
    ⟨rfl, rfl, rfl, by decide, by decide, by decide +kernel, by decide⟩
  have hraised : List.Forall₂ (Transaction.EasesDrain ⟨7⟩) (refunds ⟨6⟩ ⟨9⟩)
      (refunds ⟨6⟩ ⟨BitVec.allOnes 256⟩) :=
    .cons .unchanged (.cons .unchanged (.cons (.raised rfl (by decide) (by decide)) .nil))
  have hlisted : (⟨0, by decide⟩, ⟨2, by decide⟩) ∈
      (standard : Config Float).history.drainPlaces (refunds ⟨6⟩ ⟨9⟩) ⟨7⟩ := by decide
  exact ⟨⟨hlenient, (hlooser _ hlenient).2.2⟩, hraised, hlisted, heased _ hraised _ _ hlisted⟩

end Config

end Honeypot
