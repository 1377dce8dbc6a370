import Honeypot.Config.Rules

namespace Honeypot

open Scalar (percent)

variable {K : Type} [Scalar K]

def OpcodeRule.standard : List (OpcodeRule K) := [
  { id := "hidden_self_destruct", opcodes := ["SELFDESTRUCT"], weight := percent 70,
    technique := "Hidden Self Destruct", opcodes_ne_nil := by simp },
  { id := "balance_disorder", opcodes := ["CALLVALUE", "BALANCE", "GT"], weight := percent 40,
    technique := "Balance Disorder", opcodes_ne_nil := by simp },
  { id := "hidden_transfer", opcodes := ["CALLER", "BALANCE", "CALL"], weight := percent 30,
    technique := "Hidden Transfer", opcodes_ne_nil := by simp },
  { id := "straw_man_contract", opcodes := ["DELEGATECALL", "SLOAD"], weight := percent 50,
    technique := "Straw Man Contract", opcodes_ne_nil := by simp },
  { id := "hidden_state_update", opcodes := ["SLOAD", "SSTORE", "CALLER", "EQ"],
    weight := percent 30, technique := "Hidden State Update", opcodes_ne_nil := by simp },
  { id := "origin_gate", opcodes := ["ORIGIN", "EQ", "JUMPI"], weight := percent 30,
    technique := "Tx Origin Gate", opcodes_ne_nil := by simp }]

def NameRule.standard : List (NameRule K) := [
  .make "withdraw" (percent 60) "Withdrawal Trap",
  .make "multiplicate" (percent 60) "Multiplier Bait",
  .make "claim" (percent 50) "Reward Bait",
  .make "getreward" (percent 50) "Reward Bait",
  .make "collect" (percent 40) "Collect Trap",
  .make "mint" (percent 30) "Payable Mint"]

namespace SourceRule

def known (id written : String) (weight : K) (technique : String) : SourceRule K :=
  { id, written, pattern := (Pattern.ofText? written).getD .empty, weight, technique }

def ownerOnlyModifier : SourceRule K :=
  known "owner_only_modifier"
    ("(?i)modifier\\s+\\w+\\s*(\\([^)]*\\))?\\s*\\\x7b[^\x7d]*" ++
      "require\\s*\\(\\s*msg\\.sender\\s*==\\s*\\w*owner")
    (percent 30) "Owner Only Modifier"

def selfDestructCall : SourceRule K :=
  known "selfdestruct_call" "\\b(selfdestruct|suicide)\\s*\\(" (percent 50) "Hidden Self Destruct"

def timestampDependence : SourceRule K :=
  known "timestamp_dependence" "\\bblock\\.timestamp\\b|\\bnow\\b" (percent 20)
    "Timestamp Dependence"

def balanceGatedRequire : SourceRule K :=
  known "balance_gated_require" "require\\s*\\([^;]*\\.balance\\b[^;]*\\)" (percent 40)
    "Balance Disorder"

def standard : List (SourceRule K) :=
  [ownerOnlyModifier, selfDestructCall, timestampDependence, balanceGatedRequire]

end SourceRule

def HistoryRules.standard : HistoryRules K :=
  { window := 300
    share := 7000
    drainWeight := percent 50
    drainTechnique := "Quick Drain"
    ownerWeight := percent 40
    ownerTechnique := "Owner Only Withdrawal"
    failedShare := percent 50
    failedSamples := 3
    failedWeight := percent 30
    failedTechnique := "Failed Withdrawals" }

def Weights.standard : Weights K :=
  { ml := percent 25, symbolic := percent 35, static := percent 25, history := percent 15 }

def Weights.standardWithoutSymbolic : Weights K :=
  { ml := percent 50, symbolic := percent 0, static := percent 35, history := percent 15 }

/-- The configuration that holds unless another is given. -/
def Config.standard : Config K :=
  { opcodeRules := OpcodeRule.standard
    nameRules := NameRule.standard
    sourceRules := SourceRule.standard
    history := HistoryRules.standard
    weights := Weights.standard
    weightsWithoutSymbolic := Weights.standardWithoutSymbolic
    thresholds := Thresholds.standard }

end Honeypot
