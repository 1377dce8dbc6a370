import Honeypot.Config.Standard
import Honeypot.Detect.History
import Mathlib.Tactic.NormNum

/-!
Which withdrawals drain a deposit.

The share of the deposit that a withdrawal returns is compared by two products, each of which
stops at the largest amount. The comparison is exact unless both of them stop. Then the deposit
counts as drained, whatever the share.
-/

namespace Honeypot

theorem Wei.saturatingMul_le_iff (a b : Wei) (m n : Nat) :
    a.saturatingMul m ≤ b.saturatingMul n ↔
      a.toNat * m ≤ b.toNat * n ∨ 2 ^ 256 - 1 ≤ b.toNat * n := by
  have htop : Nat.pow 2 256 - 1 = 2 ^ 256 - 1 := rfl
  simp only [saturatingMul, htop]
  -- Only the order of the products matters, not how they come about.
  generalize 2 ^ 256 - 1 = top
  omega

theorem Transaction.isDeposit_iff {t : Transaction} {contract : Address} :
    t.isDeposit contract = true ↔ t.recipient = some contract ∧ t.value.toNat ≠ 0 := by
  simp only [isDeposit, isSentTo, carriesValue, Bool.and_eq_true, decide_eq_true_eq]

theorem Transaction.isWithdrawal_iff {t : Transaction} {contract : Address} :
    t.isWithdrawal contract = true ↔ t.sender = contract ∧ t.value.toNat ≠ 0 := by
  simp only [isWithdrawal, isSentFrom, carriesValue, Bool.and_eq_true, decide_eq_true_eq]

namespace HistoryRules

variable {K : Type} {rules : HistoryRules K} {history : List Transaction} {contract : Address}
  {deposit withdrawal : Transaction}

/-- Money goes to a contract and, within the window, money goes out of it. -/
structure Timely (rules : HistoryRules K) (history : List Transaction) (contract : Address)
    (deposit withdrawal : Transaction) : Prop where
  deposit_mem : deposit ∈ history
  deposit_recipient : deposit.recipient = some contract
  deposit_value : deposit.value.toNat ≠ 0
  withdrawal_mem : withdrawal ∈ history
  withdrawal_sender : withdrawal.sender = contract
  withdrawal_value : withdrawal.value.toNat ≠ 0
  after : deposit.timestamp.toNat < withdrawal.timestamp.toNat
  within : withdrawal.timestamp.toNat - deposit.timestamp.toNat < rules.window.toNat

/-- A withdrawal returns at least the share of a deposit, in hundredths of a percent. -/
def ReturnsShare (rules : HistoryRules K) (deposit withdrawal : Transaction) : Prop :=
  deposit.value.toNat * rules.share.toNat ≤ withdrawal.value.toNat * 10000

instance (rules : HistoryRules K) (deposit withdrawal : Transaction) :
    Decidable (rules.ReturnsShare deposit withdrawal) := Nat.decLe _ _

theorem isDrain_iff_saturatingMul : rules.isDrain deposit withdrawal = true ↔
    deposit.timestamp.toNat < withdrawal.timestamp.toNat ∧
      withdrawal.timestamp.toNat - deposit.timestamp.toNat < rules.window.toNat ∧
      deposit.value.saturatingMul rules.share.toNat ≤ withdrawal.value.saturatingMul 10000 := by
  simp only [isDrain, Bool.and_eq_true, decide_eq_true_eq, UInt64.lt_iff_toNat_lt, and_assoc]
  refine and_congr_right fun hafter => ?_
  rw [UInt64.toNat_sub_of_le _ _ (UInt64.le_iff_toNat_le.mpr hafter.le)]
  rfl

theorem isDrain_iff : rules.isDrain deposit withdrawal = true ↔
    deposit.timestamp.toNat < withdrawal.timestamp.toNat ∧
      withdrawal.timestamp.toNat - deposit.timestamp.toNat < rules.window.toNat ∧
      (rules.ReturnsShare deposit withdrawal ∨ 2 ^ 256 - 1 ≤ withdrawal.value.toNat * 10000) := by
  rw [isDrain_iff_saturatingMul, Wei.saturatingMul_le_iff]
  rfl

theorem mem_drains_iff : (deposit, withdrawal) ∈ rules.drains history contract ↔
    (deposit ∈ history ∧ deposit.isDeposit contract = true) ∧
      (withdrawal ∈ history ∧ withdrawal.isWithdrawal contract = true) ∧
      rules.isDrain deposit withdrawal = true := by
  simp only [drains, List.mem_flatMap, List.mem_map, List.mem_filter, Prod.mk.injEq]
  constructor
  · rintro ⟨_, hdeposit, _, ⟨hwithdrawal, hdrain⟩, rfl, rfl⟩
    exact ⟨hdeposit, hwithdrawal, hdrain⟩
  · rintro ⟨hdeposit, hwithdrawal, hdrain⟩
    exact ⟨_, hdeposit, _, ⟨hwithdrawal, hdrain⟩, rfl, rfl⟩

theorem mem_drains_iff_isDrain (h : rules.Timely history contract deposit withdrawal) :
    (deposit, withdrawal) ∈ rules.drains history contract ↔
      rules.isDrain deposit withdrawal = true := by
  have hdeposit : deposit.isDeposit contract = true :=
    Transaction.isDeposit_iff.mpr ⟨h.deposit_recipient, h.deposit_value⟩
  have hwithdrawal : withdrawal.isWithdrawal contract = true :=
    Transaction.isWithdrawal_iff.mpr ⟨h.withdrawal_sender, h.withdrawal_value⟩
  rw [mem_drains_iff]
  simp [h.deposit_mem, h.withdrawal_mem, hdeposit, hwithdrawal]

/-- A timely withdrawal drains a deposit if and only if it returns at least the share, or its
product is too large to be compared. As long as one of the two products fits the comparison is
exact. -/
theorem mem_drains_iff_returnsShare_or_large
    (h : rules.Timely history contract deposit withdrawal) :
    ((deposit, withdrawal) ∈ rules.drains history contract ↔
      rules.ReturnsShare deposit withdrawal ∨ 2 ^ 256 ≤ withdrawal.value.toNat * 10000) ∧
    (deposit.value.toNat * rules.share.toNat < 2 ^ 256 ∨
        withdrawal.value.toNat * 10000 < 2 ^ 256 →
      ((deposit, withdrawal) ∈ rules.drains history contract ↔
        rules.ReturnsShare deposit withdrawal)) := by
  -- The largest amount is odd, so that no multiple of the whole is equal to it.
  have hodd : 2 ^ 256 - 1 ≤ withdrawal.value.toNat * 10000 ↔
      2 ^ 256 ≤ withdrawal.value.toNat * 10000 := by
    norm_num
    omega
  have hiff : (deposit, withdrawal) ∈ rules.drains history contract ↔
      rules.ReturnsShare deposit withdrawal ∨ 2 ^ 256 ≤ withdrawal.value.toNat * 10000 := by
    rw [mem_drains_iff_isDrain h, isDrain_iff, hodd]
    simp [h.after, h.within]
  refine ⟨hiff, fun hfits => ?_⟩
  rw [hiff, or_iff_left_iff_imp]
  intro hlarge
  rcases hfits with hfits | hfits
  · exact (hfits.trans_le hlarge).le
  · exact absurd hlarge (not_le.mpr hfits)

def deposited (value : Wei) : Transaction := .transfer ⟨1⟩ ⟨1⟩ ⟨7⟩ value 0

def withdrawn (value : Wei) : Transaction := .transfer ⟨2⟩ ⟨7⟩ ⟨2⟩ value 1

theorem timely_withdrawn {v w : Wei} (hv : v.toNat ≠ 0) (hw : w.toNat ≠ 0) :
    (standard : HistoryRules ℚ).Timely [deposited v, withdrawn w] ⟨7⟩ (deposited v)
      (withdrawn w) where
  deposit_mem := by simp
  deposit_recipient := rfl
  deposit_value := hv
  withdrawal_mem := by simp
  withdrawal_sender := rfl
  withdrawal_value := hw
  after := Nat.zero_lt_one
  within := show 1 - 0 < 300 by decide

theorem mem_drains_seven_of_ten :
    (standard : HistoryRules ℚ).Timely [deposited ⟨10⟩, withdrawn ⟨7⟩] ⟨7⟩ (deposited ⟨10⟩)
      (withdrawn ⟨7⟩) ∧
    (deposited ⟨10⟩, withdrawn ⟨7⟩) ∈
      (standard : HistoryRules ℚ).drains [deposited ⟨10⟩, withdrawn ⟨7⟩] ⟨7⟩ := by
  have htimely := timely_withdrawn (v := ⟨10⟩) (w := ⟨7⟩) (by decide) (by decide)
  have hexact := (mem_drains_iff_returnsShare_or_large htimely).2 (.inr (by decide))
  exact ⟨htimely, hexact.mpr (by decide)⟩

/-- Half of the largest amount drains all of it, although the share is seven tenths. -/
theorem mem_drains_half_of_largest :
    (standard : HistoryRules ℚ).Timely
      [deposited ⟨BitVec.allOnes 256⟩, withdrawn ⟨BitVec.twoPow 256 255⟩] ⟨7⟩
      (deposited ⟨BitVec.allOnes 256⟩) (withdrawn ⟨BitVec.twoPow 256 255⟩) ∧
    (deposited ⟨BitVec.allOnes 256⟩, withdrawn ⟨BitVec.twoPow 256 255⟩) ∈
      (standard : HistoryRules ℚ).drains
        [deposited ⟨BitVec.allOnes 256⟩, withdrawn ⟨BitVec.twoPow 256 255⟩] ⟨7⟩ ∧
    ¬(standard : HistoryRules ℚ).ReturnsShare (deposited ⟨BitVec.allOnes 256⟩)
      (withdrawn ⟨BitVec.twoPow 256 255⟩) := by
  have htimely := timely_withdrawn (v := ⟨BitVec.allOnes 256⟩) (w := ⟨BitVec.twoPow 256 255⟩)
    (by decide) (by decide)
  refine ⟨htimely, ?_, by decide⟩
  rw [mem_drains_iff_isDrain htimely]
  decide

end HistoryRules

end Honeypot
