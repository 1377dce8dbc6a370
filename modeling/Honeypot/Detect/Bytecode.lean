import Honeypot.Config.Rules

namespace Honeypot

open Honeypot.Json

variable {K : Type}

/-- Holds when all opcodes of a rule occur, anywhere in the code and in any order. -/
def OpcodeRule.fires (rule : OpcodeRule K) (code : Code) : Bool :=
  rule.opcodes.all code.opcodes.contains

namespace Config

variable [Scalar K]

omit [Scalar K] in
def firedOpcodeRules (c : Config K) (code : Code) : List (OpcodeRule K) :=
  c.opcodeRules.filter (·.fires code)

/-- What a code gives away. The weights of the rules that fire add up. -/
def scanCode (c : Config K) (code : Code) : Finding K :=
  let fired := c.firedOpcodeRules code
  { Finding.of .bytecode (Scalar.capAtOne (Scalar.sum (fired.map OpcodeRule.weight))) with
    techniques := StringSet.ofList (fired.map OpcodeRule.technique)
    evidence := StringMap.ofList [
      ("length", .ofNat code.length),
      ("opcode_diversity", .ofNat code.diversity),
      ("control_flow_count", .ofNat (code.countOf Opcode.controlFlow)),
      ("storage_ratio", .real (code.shareOf Opcode.storage)),
      ("external_call_ratio", .real (code.shareOf Opcode.externalCalls)),
      ("matched_patterns", .ofTexts (fired.map OpcodeRule.id))] }

def scanBytecode (c : Config K) (bytecode : String) : Except CodeError (Finding K) :=
  (Code.decode bytecode).map c.scanCode

/-- Scan the bytecode of a contract. Where there is nothing to be scanned the reason is told,
since nothing was checked. -/
def inspectBytecode (c : Config K) (bytecode : Option String) : Outcome K :=
  match bytecode with
  | none => .unavailable .bytecode (some "bytecode not supplied")
  | some text =>
      match Code.decode text with
      | .error error => .unavailable .bytecode (some error.message)
      | .ok code =>
          if code.opcodes.isEmpty then
            .unavailable .bytecode (some "bytecode has no decodable opcodes")
          else .ran (c.scanCode code)

end Config

end Honeypot
