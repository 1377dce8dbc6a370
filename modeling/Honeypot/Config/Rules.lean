import Honeypot.Fault
import Honeypot.Pattern.Match
import Honeypot.Pattern.Reader
import Honeypot.Text.Case
import Honeypot.Verdict.Risk

namespace Honeypot

/-- A set of opcodes that is suspicious when all of them occur. It is never empty, since an empty
set would be found in every contract. -/
structure OpcodeRule (K : Type) where
  id : String
  opcodes : List String
  weight : K
  technique : String
  opcodes_ne_nil : opcodes ≠ []

/-- A part of a name that is suspicious in a function that takes payment. It is compared in lower
case. -/
structure NameRule (K : Type) where
  fragment : String
  weight : K
  technique : String

/-- A pattern that is suspicious in a source text, with its written form. -/
structure SourceRule (K : Type) where
  id : String
  written : String
  pattern : Pattern
  weight : K
  technique : String

/-- What is suspicious in a history: a deposit that is drained within a window of seconds by at
least a share in hundredths of a percent, money that goes out to one account only, and calls of
which at least a share fails, out of a least number of calls. -/
structure HistoryRules (K : Type) where
  window : UInt64
  share : UInt64
  drainWeight : K
  drainTechnique : String
  ownerWeight : K
  ownerTechnique : String
  failedShare : K
  failedSamples : UInt64
  failedWeight : K
  failedTechnique : String

inductive Engine
  | ml
  | symbolic
  | static
  | history
deriving DecidableEq

namespace Engine

def all : List Engine := [.ml, .symbolic, .static, .history]

def name : Engine → String
  | .ml => "ml"
  | .symbolic => "symbolic"
  | .static => "static"
  | .history => "transaction"

def of : Detector → Engine
  | .ml => .ml
  | .symbolic => .symbolic
  | .history => .history
  | .bytecode | .functions | .source => .static

end Engine

structure Weights (K : Type) where
  ml : K
  symbolic : K
  static : K
  history : K

def Weights.of {K : Type} (w : Weights K) : Engine → K
  | .ml => w.ml
  | .symbolic => w.symbolic
  | .static => w.static
  | .history => w.history

/-- All that an analysis is governed by. Other weights hold when there is no result of the
symbolic engine. -/
structure Config (K : Type) where
  opcodeRules : List (OpcodeRule K)
  nameRules : List (NameRule K)
  sourceRules : List (SourceRule K)
  history : HistoryRules K
  weights : Weights K
  weightsWithoutSymbolic : Weights K
  thresholds : Thresholds K

variable {K : Type}

def OpcodeRule.make (id : String) (opcodes : List String) (weight : K) (technique : String) :
    Except Fault (OpcodeRule K) :=
  if h : opcodes = [] then
    .error (.badSetting id "bytecode pattern needs at least one opcode")
  else .ok { id, opcodes, weight, technique, opcodes_ne_nil := h }

/-- A rule on names, for a fragment in any case. -/
def NameRule.make (fragment : String) (weight : K) (technique : String) : NameRule K :=
  { fragment := lowercase fragment, weight, technique }

def SourceRule.make (id written : String) (weight : K) (technique : String) :
    Except Fault (SourceRule K) :=
  match Pattern.ofText? written with
  | some pattern => .ok { id, written, pattern, weight, technique }
  | none => .error .badPattern

end Honeypot
