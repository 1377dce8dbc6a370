import Honeypot.Config.Rules
import Honeypot.Contract.Transaction

namespace Honeypot

open Honeypot.Json

variable {K : Type}

def Transaction.isDeposit (t : Transaction) (contract : Address) : Bool :=
  t.isSentTo contract && t.carriesValue

def Transaction.isWithdrawal (t : Transaction) (contract : Address) : Bool :=
  t.isSentFrom contract && t.carriesValue

namespace HistoryRules

def wholeShare : Nat := 10000

/-- Holds when a withdrawal follows a deposit within the window and returns at least the share.
The products stop at the largest amount. -/
def isDrain (rules : HistoryRules K) (deposit withdrawal : Transaction) : Bool :=
  deposit.timestamp < withdrawal.timestamp &&
    withdrawal.timestamp - deposit.timestamp < rules.window &&
    deposit.value.saturatingMul rules.share.toNat ≤ withdrawal.value.saturatingMul wholeShare

/-- The deposits of a history, each with the withdrawals that drain it. -/
def drains (rules : HistoryRules K) (history : List Transaction) (contract : Address) :
    List (Transaction × Transaction) :=
  let withdrawals := history.filter (·.isWithdrawal contract)
  (history.filter (·.isDeposit contract)).flatMap fun deposit =>
    (withdrawals.filter (rules.isDrain deposit)).map fun withdrawal => (deposit, withdrawal)

def receipts (history : List Transaction) (contract : Address) : List Bool :=
  (history.filter (·.isSentTo contract)).filterMap Transaction.succeeded

/-- The share of failures among the known receipts, with their number, if there are enough. -/
def failures? [Scalar K] (rules : HistoryRules K) (history : List Transaction)
    (contract : Address) : Option (K × Nat) :=
  let known := receipts history contract
  if known.isEmpty || known.length < rules.failedSamples.toNat then none
  else some (Scalar.ratio (known.countP (!·)) known.length, known.length)

end HistoryRules

def drainValue [Scalar K] (drain : Transaction × Transaction) : Value K :=
  let (deposit, withdrawal) := drain
  .object [
    ("deposit_hash", .text deposit.hash.write),
    ("deposit_value", .text deposit.value.decimal),
    ("elapsed_secs", .ofNat (withdrawal.timestamp - deposit.timestamp).toNat),
    ("withdrawal_eth", .real withdrawal.value.toEther),
    ("withdrawal_hash", .text withdrawal.hash.write),
    ("withdrawal_value", .text withdrawal.value.decimal)]

def paysOnly (owner : Address) (outgoing : List Transaction) : Bool :=
  !outgoing.isEmpty && outgoing.all (·.isSentTo owner)

namespace Config

variable [Scalar K]

/-- What a history gives away. The weights of the checks that fire add up. The sender of the first
transaction of the list is taken for the owner. -/
def scanHistory (c : Config K) (history : List Transaction) (contract : Address) : Finding K :=
  let rules := c.history
  let count := ("transaction_count", Value.ofNat history.length)
  match history with
  | [] =>
      { Finding.of .history Scalar.zero with evidence := StringMap.ofList [count] }
  | first :: _ =>
      let drains := rules.drains history contract
      let owner := first.sender
      let outgoing := history.filter (·.isWithdrawal contract)
      let failures := rules.failures? history contract
      let fired : List (K × String) :=
        (if drains.isEmpty then [] else [(rules.drainWeight, rules.drainTechnique)]) ++
        (if paysOnly owner outgoing then [(rules.ownerWeight, rules.ownerTechnique)] else []) ++
        (if failures.any (Scalar.le rules.failedShare ·.1) then
          [(rules.failedWeight, rules.failedTechnique)] else [])
      { name := Detector.history.name
        confidence := Scalar.capAtOne ((fired.map Prod.fst).foldl (· + ·) Scalar.zero)
        techniques := StringSet.ofList (fired.map Prod.snd)
        evidence := StringMap.ofList ([
          count,
          ("quick_drain_pairs", .array (drains.map drainValue)),
          ("likely_owner", .text owner.checksummed),
          ("outgoing_value_count", .ofNat outgoing.length),
          ("owner_only_withdrawals", .bool (paysOnly owner outgoing)),
          ("failed_ratio", Value.ofOption (.real ·.1) failures)] ++
          failures.toList.map fun f => ("failed_ratio_samples", .ofNat f.2)) }

def inspectHistory (c : Config K) (history : Option (List Transaction)) (contract : Address) :
    Outcome K :=
  match history with
  | some history => .ran (c.scanHistory history contract)
  | none => .unavailable .history none

end Config

end Honeypot
