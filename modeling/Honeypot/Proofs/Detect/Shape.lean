import Honeypot.Proofs.Detect.Relabel
import Honeypot.Proofs.StringMap
import Mathlib.Data.List.Perm.Basic

namespace Honeypot

open Honeypot.Json

variable {K : Type}

/-- Two findings say the same, with the same drains in any order. -/
structure Finding.SameUpToOrder (f g : Finding K) : Prop where
  name : f.name = g.name
  confidence : f.confidence = g.confidence
  techniques : f.techniques = g.techniques
  evidence : ∀ key, key ≠ "quick_drain_pairs" → f.evidence.find? key = g.evidence.find? key
  drains : Option.Rel
    (fun first second => ∃ entries entries', first = .array entries ∧ second = .array entries' ∧
      entries.Perm entries')
    (f.evidence.find? "quick_drain_pairs") (g.evidence.find? "quick_drain_pairs")

theorem Finding.sameUpToOrder_withEvidence {f : Finding K} {entries entries' : List (Value K)}
    (hf : f.evidence.find? "quick_drain_pairs" = some (.array entries))
    (h : entries.Perm entries') :
    f.SameUpToOrder (f.withEvidence "quick_drain_pairs" (.array entries')) where
  name := rfl
  confidence := rfl
  techniques := rfl
  evidence := by
    intro key hkey
    rw [withEvidence, StringMap.find?_insert, if_neg hkey]
  drains := by
    rw [withEvidence, StringMap.find?_insert, if_pos rfl, hf]
    exact .some ⟨entries, entries', rfl, rfl, h⟩

namespace Transaction

/-- A transaction so many seconds later, or earlier if the number is below zero. -/
def delayed (delay : ℤ) (t : Transaction) : Transaction :=
  { t with timestamp := UInt64.ofNat (t.timestamp.toNat + delay).toNat }

/-- The time of a transaction is in range also when it is delayed. -/
def CanBeDelayed (delay : ℤ) (t : Transaction) : Prop :=
  0 ≤ t.timestamp.toNat + delay ∧ t.timestamp.toNat + delay < 2 ^ 64

instance (delay : ℤ) (t : Transaction) : Decidable (t.CanBeDelayed delay) :=
  inferInstanceAs (Decidable (_ ∧ _))

def renamed (rename : Address → Address) (t : Transaction) : Transaction :=
  { t with sender := rename t.sender, recipient := t.recipient.map rename }

theorem toNat_timestamp_delayed {delay : ℤ} {t : Transaction} (h : t.CanBeDelayed delay) :
    ((t.delayed delay).timestamp.toNat : ℤ) = t.timestamp.toNat + delay := by
  obtain ⟨hlow, hhigh⟩ := h
  have hlt : (t.timestamp.toNat + delay).toNat < UInt64.size := by
    rw [UInt64.size]
    omega
  rw [delayed, UInt64.toNat_ofNat_of_lt' hlt]
  omega

theorem isSentTo_renamed {rename : Address → Address} (h : rename.Injective) (t : Transaction)
    (a : Address) : (t.renamed rename).isSentTo (rename a) = t.isSentTo a := by
  rw [isSentTo, isSentTo, decide_eq_decide]
  exact (Option.map_injective h).eq_iff (b := some a)

theorem isSentFrom_renamed {rename : Address → Address} (h : rename.Injective) (t : Transaction)
    (a : Address) : (t.renamed rename).isSentFrom (rename a) = t.isSentFrom a := by
  rw [isSentFrom, isSentFrom, decide_eq_decide]
  exact h.eq_iff

end Transaction

namespace HistoryRules

variable {rules : HistoryRules K} {history history' : List Transaction} {contract : Address}

theorem relabels_delayed (rules : HistoryRules K) {delay : ℤ}
    (h : ∀ t ∈ history, t.CanBeDelayed delay) (contract : Address) :
    rules.Relabels (·.delayed delay) history contract contract where
  sentTo _ _ := rfl
  sentFrom _ _ := rfl
  value _ _ := rfl
  succeeded _ _ := rfl
  isDrain d hd w hw := by
    have hdeposit := Transaction.toNat_timestamp_delayed (h d hd)
    have hwithdrawal := Transaction.toNat_timestamp_delayed (h w hw)
    -- Both times move alike, so their order and their distance stay; the values are not touched.
    rw [Bool.eq_iff_iff, isDrain_iff_saturatingMul, isDrain_iff_saturatingMul, ← and_assoc,
      ← and_assoc]
    exact and_congr (by omega) Iff.rfl

theorem relabels_renamed (rules : HistoryRules K) {rename : Address → Address}
    (h : rename.Injective) (history : List Transaction) (contract : Address) :
    rules.Relabels (·.renamed rename) history contract (rename contract) where
  sentTo t _ := t.isSentTo_renamed h contract
  sentFrom t _ := t.isSentFrom_renamed h contract
  value _ _ := rfl
  succeeded _ _ := rfl
  isDrain _ _ _ _ := rfl

theorem drainValue_delayed [Scalar K] {delay : ℤ} {deposit withdrawal : Transaction}
    (hdeposit : deposit.CanBeDelayed delay) (hwithdrawal : withdrawal.CanBeDelayed delay)
    (h : rules.isDrain deposit withdrawal = true) :
    drainValue (K := K) (deposit.delayed delay, withdrawal.delayed delay) =
      drainValue (deposit, withdrawal) := by
  have hafter := (isDrain_iff_saturatingMul.mp h).1
  have hdeposit := Transaction.toNat_timestamp_delayed hdeposit
  have hwithdrawal := Transaction.toNat_timestamp_delayed hwithdrawal
  have helapsed :
      ((withdrawal.delayed delay).timestamp - (deposit.delayed delay).timestamp).toNat =
        (withdrawal.timestamp - deposit.timestamp).toNat := by
    rw [UInt64.toNat_sub_of_le _ _ (UInt64.le_iff_toNat_le.mpr (by omega)),
      UInt64.toNat_sub_of_le _ _ (UInt64.le_iff_toNat_le.mpr hafter.le)]
    omega
  simp only [drainValue, helapsed]
  rfl

theorem drains_perm (rules : HistoryRules K) (h : history.Perm history') (contract : Address) :
    (rules.drains history contract).Perm (rules.drains history' contract) :=
  (h.filter _).flatMap fun _ _ => ((h.filter _).filter _).map _

theorem paysOnly_perm {owner : Address} {outgoing outgoing' : List Transaction}
    (h : outgoing.Perm outgoing') : paysOnly owner outgoing = paysOnly owner outgoing' := by
  rw [paysOnly, paysOnly, h.isEmpty_eq, h.all_eq]

theorem failures?_perm [Scalar K] (h : history.Perm history') :
    rules.failures? history contract = rules.failures? history' contract := by
  have hreceipts : (receipts history contract).Perm (receipts history' contract) :=
    (h.filter _).filterMap _
  rw [failures?, failures?, hreceipts.isEmpty_eq, hreceipts.length_eq, hreceipts.countP_eq]

theorem signs_perm [Scalar K] (h : history.Perm history') (owner : Address) :
    rules.signs owner history' contract =
      { rules.signs owner history contract with
        drains := (rules.drains history' contract).map drainValue } := by
  have houtgoing := h.filter (·.isWithdrawal contract)
  simp only [signs, h.length_eq, houtgoing.length_eq, paysOnly_perm houtgoing, failures?_perm h]

end HistoryRules

theorem HistorySigns.ne_of_mem_tallies {signs : HistorySigns K} {entry : String × Value K}
    (h : entry ∈ signs.tallies) : entry.1 ≠ "quick_drain_pairs" ∧ entry.1 ≠ "likely_owner" := by
  simp only [tallies, List.mem_append, List.mem_cons, List.not_mem_nil, or_false,
    List.mem_map] at h
  rcases h with (rfl | rfl | rfl) | ⟨_, -, rfl⟩ <;> simp

namespace Config

variable [Scalar K] (c : Config K) (signs : HistorySigns K)

omit [Scalar K] in
theorem ne_drains_of_mem_evidence : ∀ entry ∈
    ("likely_owner", Value.text signs.owner.checksummed) :: signs.tallies,
    entry.1 ≠ "quick_drain_pairs" :=
  List.forall_mem_cons.mpr ⟨by simp, fun _ h => (HistorySigns.ne_of_mem_tallies h).1⟩

theorem evidence_findingOn : (c.findingOn signs).evidence = StringMap.ofList (
    ("transaction_count", .ofNat signs.count) ::
    ("quick_drain_pairs", .array signs.drains) ::
    ("likely_owner", .text signs.owner.checksummed) ::
    signs.tallies) := by
  rw [findingOn]

theorem find?_drains_findingOn :
    (c.findingOn signs).evidence.find? "quick_drain_pairs" = some (.array signs.drains) := by
  rw [evidence_findingOn]
  exact StringMap.find?_ofList_append_cons [("transaction_count", Value.ofNat signs.count)]
    (ne_drains_of_mem_evidence signs) _

theorem findingOn_drains {drains : List (Value K)} (h : drains.isEmpty = signs.drains.isEmpty) :
    c.findingOn { signs with drains } =
      (c.findingOn signs).withEvidence "quick_drain_pairs" (.array drains) := by
  have hfired : c.firedOn { signs with drains } = c.firedOn signs := by
    simp only [firedOn, h]
  have hevidence : (c.findingOn { signs with drains }).evidence =
      (c.findingOn signs).evidence.insert "quick_drain_pairs" (.array drains) := by
    rw [evidence_findingOn, evidence_findingOn]
    exact StringMap.ofList_append_cons [("transaction_count", Value.ofNat signs.count)]
      (ne_drains_of_mem_evidence signs) _ _
  rw [Finding.withEvidence, ← hevidence]
  simp only [findingOn, hfired]

theorem findingOn_owner (owner : Address) : c.findingOn { signs with owner } =
    (c.findingOn signs).withEvidence "likely_owner" (.text owner.checksummed) := by
  have hevidence : (c.findingOn { signs with owner }).evidence =
      (c.findingOn signs).evidence.insert "likely_owner" (.text owner.checksummed) := by
    rw [evidence_findingOn, evidence_findingOn]
    exact StringMap.ofList_append_cons [("transaction_count", Value.ofNat signs.count),
      ("quick_drain_pairs", Value.array signs.drains)]
      (fun _ h => (HistorySigns.ne_of_mem_tallies h).2) _ _
  have hfired : c.firedOn { signs with owner } = c.firedOn signs := rfl
  rw [Finding.withEvidence, ← hevidence]
  simp only [findingOn, hfired]

variable {c}

theorem sameUpToOrder_scanHistory {history history' : List Transaction}
    (h : history.Perm history')
    (hfirst : history.head?.map (·.sender) = history'.head?.map (·.sender)) (contract : Address) :
    (c.scanHistory history contract).SameUpToOrder (c.scanHistory history' contract) := by
  cases history with
  | nil =>
      obtain rfl := h.nil_eq
      exact ⟨rfl, rfl, rfl, fun _ _ => rfl, .none⟩
  | cons first rest =>
      cases history' with
      | nil => cases h.length_eq
      | cons first' rest' =>
          -- The owner is all that the head of the list decides; the rest is counted or listed.
          have howner : first.sender = first'.sender := Option.some.inj hfirst
          have hdrains : (c.history.signs first.sender (first :: rest) contract).drains.Perm
              ((c.history.drains (first' :: rest') contract).map drainValue) :=
            (c.history.drains_perm h contract).map _
          rw [scanHistory_cons, scanHistory_cons, ← howner, HistoryRules.signs_perm h,
            c.findingOn_drains _ hdrains.symm.isEmpty_eq]
          exact Finding.sameUpToOrder_withEvidence (c.find?_drains_findingOn _) hdrains

theorem scanHistory_map_delayed {history : List Transaction} {delay : ℤ}
    (h : ∀ t ∈ history, t.CanBeDelayed delay) (contract : Address) :
    c.scanHistory (history.map (·.delayed delay)) contract = c.scanHistory history contract := by
  cases history with
  | nil => rfl
  | cons first rest =>
      rw [c.scanHistory_map (c.history.relabels_delayed h contract) (fun _ _ => rfl)
        (fun d hd w hw hdrain => HistoryRules.drainValue_delayed (h d hd) (h w hw) hdrain),
        scanHistory_cons]
      rfl

theorem scanHistory_map_renamed {rename : Address → Address} (h : rename.Injective)
    (first : Transaction) (rest : List Transaction) (contract : Address) :
    c.scanHistory ((first :: rest).map (·.renamed rename)) (rename contract) =
      (c.scanHistory (first :: rest) contract).withEvidence "likely_owner"
        (.text (rename first.sender).checksummed) := by
  rw [c.scanHistory_map (c.history.relabels_renamed h (first :: rest) contract)
    (fun t _ => t.isSentTo_renamed h first.sender) (fun _ _ _ _ _ => rfl), scanHistory_cons]
  exact c.findingOn_owner _ (rename first.sender)

variable (c)

/-- A finding on a history is the same, but for the order of the drains, if the transactions are
listed in another order after the same first sender. It does not change at all if all transactions
happen earlier or later, and when other addresses take part then only the owner is another one. -/
theorem scanHistory_depends_on_shape (history : List Transaction) (contract : Address) :
    (∀ history' : List Transaction, history.Perm history' →
      history.head?.map (·.sender) = history'.head?.map (·.sender) →
      (c.scanHistory history contract).SameUpToOrder (c.scanHistory history' contract)) ∧
    (∀ delay : ℤ, (∀ t ∈ history, t.CanBeDelayed delay) →
      c.scanHistory (history.map (·.delayed delay)) contract = c.scanHistory history contract) ∧
    (∀ rename : Address → Address, rename.Injective →
      c.scanHistory (history.map (·.renamed rename)) (rename contract) =
        match history with
        | [] => c.scanHistory history contract
        | first :: _ => (c.scanHistory history contract).withEvidence "likely_owner"
            (.text (rename first.sender).checksummed)) := by
  refine ⟨fun history' h hfirst => sameUpToOrder_scanHistory h hfirst contract,
    fun delay h => scanHistory_map_delayed h contract, fun rename h => ?_⟩
  cases history with
  | nil => rfl
  | cons first rest => exact scanHistory_map_renamed h first rest contract

def refunds (first second : Wei) : List Transaction :=
  [HistoryRules.deposited ⟨10⟩, HistoryRules.withdrawn first, HistoryRules.withdrawn second]

def nextAddress (a : Address) : Address := ⟨a.bits + 1⟩

theorem scanHistory_refunds :
    ((refunds ⟨7⟩ ⟨9⟩).Perm (refunds ⟨9⟩ ⟨7⟩) ∧
      ((standard : Config ℚ).scanHistory (refunds ⟨7⟩ ⟨9⟩) ⟨7⟩).SameUpToOrder
        (standard.scanHistory (refunds ⟨9⟩ ⟨7⟩) ⟨7⟩)) ∧
    ((∀ t ∈ refunds ⟨7⟩ ⟨9⟩, t.CanBeDelayed 60) ∧
      (standard : Config ℚ).scanHistory ((refunds ⟨7⟩ ⟨9⟩).map (·.delayed 60)) ⟨7⟩ =
        standard.scanHistory (refunds ⟨7⟩ ⟨9⟩) ⟨7⟩) ∧
    (nextAddress.Injective ∧
      (standard : Config ℚ).scanHistory ((refunds ⟨7⟩ ⟨9⟩).map (·.renamed nextAddress)) ⟨8⟩ =
        (standard.scanHistory (refunds ⟨7⟩ ⟨9⟩) ⟨7⟩).withEvidence "likely_owner"
          (.text (Address.mk 2).checksummed)) := by
  obtain ⟨horder, htime, hrename⟩ :=
    (standard : Config ℚ).scanHistory_depends_on_shape (refunds ⟨7⟩ ⟨9⟩) ⟨7⟩
  have hperm : (refunds ⟨7⟩ ⟨9⟩).Perm (refunds ⟨9⟩ ⟨7⟩) := (List.Perm.swap _ _ _).cons _
  have hfits : ∀ t ∈ refunds ⟨7⟩ ⟨9⟩, t.CanBeDelayed 60 := by decide
  have hinjective : nextAddress.Injective := by
    intro a b h
    have hbits : a.bits + 1 = b.bits + 1 := congrArg Address.bits h
    exact congrArg Address.mk ((BitVec.add_left_inj 1).mp hbits)
  exact ⟨⟨hperm, horder _ hperm rfl⟩, ⟨hfits, htime 60 hfits⟩,
    ⟨hinjective, hrename nextAddress hinjective⟩⟩

end Config

end Honeypot
