namespace Honeypot.Opcode

/-- The assigned opcodes, in blocks of consecutive bytes, each with its first byte. -/
def blocks : List (Nat × List String) := [
  (0x00, ["STOP", "ADD", "MUL", "SUB", "DIV", "SDIV", "MOD", "SMOD", "ADDMOD", "MULMOD", "EXP",
    "SIGNEXTEND"]),
  (0x10, ["LT", "GT", "SLT", "SGT", "EQ", "ISZERO", "AND", "OR", "XOR", "NOT", "BYTE", "SHL",
    "SHR", "SAR"]),
  (0x20, ["SHA3"]),
  (0x30, ["ADDRESS", "BALANCE", "ORIGIN", "CALLER", "CALLVALUE", "CALLDATALOAD", "CALLDATASIZE",
    "CALLDATACOPY", "CODESIZE", "CODECOPY", "GASPRICE", "EXTCODESIZE", "EXTCODECOPY",
    "RETURNDATASIZE", "RETURNDATACOPY", "EXTCODEHASH", "BLOCKHASH", "COINBASE", "TIMESTAMP",
    "NUMBER", "PREVRANDAO", "GASLIMIT", "CHAINID", "SELFBALANCE", "BASEFEE", "BLOBHASH",
    "BLOBBASEFEE"]),
  (0x50, ["POP", "MLOAD", "MSTORE", "MSTORE8", "SLOAD", "SSTORE", "JUMP", "JUMPI", "PC", "MSIZE",
    "GAS", "JUMPDEST", "TLOAD", "TSTORE", "MCOPY", "PUSH0"]),
  (0x60, ["PUSH1", "PUSH2", "PUSH3", "PUSH4", "PUSH5", "PUSH6", "PUSH7", "PUSH8", "PUSH9",
    "PUSH10", "PUSH11", "PUSH12", "PUSH13", "PUSH14", "PUSH15", "PUSH16", "PUSH17", "PUSH18",
    "PUSH19", "PUSH20", "PUSH21", "PUSH22", "PUSH23", "PUSH24", "PUSH25", "PUSH26", "PUSH27",
    "PUSH28", "PUSH29", "PUSH30", "PUSH31", "PUSH32"]),
  (0x80, ["DUP1", "DUP2", "DUP3", "DUP4", "DUP5", "DUP6", "DUP7", "DUP8", "DUP9", "DUP10",
    "DUP11", "DUP12", "DUP13", "DUP14", "DUP15", "DUP16"]),
  (0x90, ["SWAP1", "SWAP2", "SWAP3", "SWAP4", "SWAP5", "SWAP6", "SWAP7", "SWAP8", "SWAP9",
    "SWAP10", "SWAP11", "SWAP12", "SWAP13", "SWAP14", "SWAP15", "SWAP16"]),
  (0xA0, ["LOG0", "LOG1", "LOG2", "LOG3", "LOG4"]),
  (0xF0, ["CREATE", "CALL", "CALLCODE", "RETURN", "DELEGATECALL", "CREATE2"]),
  (0xFA, ["STATICCALL"]),
  (0xFD, ["REVERT", "INVALID", "SELFDESTRUCT"])]

def mnemonic? (byte : UInt8) : Option String :=
  blocks.findSome? fun (first, names) =>
    if first ≤ byte.toNat then names[byte.toNat - first]? else none

def controlFlow : List String := ["JUMP", "JUMPI", "JUMPDEST"]

def storage : List String := ["SLOAD", "SSTORE"]

def externalCalls : List String := ["CALL", "CALLCODE", "DELEGATECALL", "STATICCALL"]

end Honeypot.Opcode
