import Honeypot.Bytecode.Opcode
import Honeypot.Chain.Hex
import Honeypot.Scalar
import Honeypot.StringMap
import Honeypot.Text.Quoted

namespace Honeypot

/-- What is wrong with the text of a bytecode. Offsets count the bytes of the text after its
prefix. -/
inductive CodeError
  | oddLength (digits : Nat)
  | invalidHex (offset : Nat) (found : Char)
deriving DecidableEq

def CodeError.message : CodeError → String
  | .oddLength digits => "bytecode has odd hex length (" ++ toString digits ++ " digits)"
  | .invalidHex offset found =>
      "invalid hex character " ++ quotedChar found ++ " at offset " ++ toString offset

/-- The mnemonics of a bytecode, in order. -/
structure Code where
  opcodes : List String
deriving DecidableEq

namespace Code

def digitBytes (text : String) : List UInt8 :=
  (Hex.dropPrefix text.toList).flatMap String.utf8EncodeChar

def digit? (byte : UInt8) : Option Nat := Json.hexValue? (Char.ofNat byte.toNat)

def firstFault? (bytes : List UInt8) : Option CodeError :=
  (bytes.zipIdx.find? fun entry => (digit? entry.1).isNone).map fun entry =>
    .invalidHex entry.2 (Char.ofNat entry.1.toNat)

def pair (high low : UInt8) : UInt8 :=
  UInt8.ofNat (16 * (digit? high).getD 0 + (digit? low).getD 0)

def pairUp (paired : List UInt8) : List UInt8 → List UInt8
  | high :: low :: rest => pairUp (pair high low :: paired) rest
  | _ => paired.reverse

/-- Every byte is read as an opcode, the operands of pushes included, and bytes that are not
assigned are left out. -/
def ofBytes (bytes : List UInt8) : Code := ⟨bytes.filterMap Opcode.mnemonic?⟩

/-- Decode a text. An odd number of digits is reported before a digit that is none. -/
def decode (text : String) : Except CodeError Code :=
  let digits := digitBytes text
  if digits.length % 2 = 1 then .error (.oddLength digits.length)
  else
    match firstFault? digits with
    | some fault => .error fault
    | none => .ok (ofBytes (pairUp [] digits))

def length (code : Code) : Nat := code.opcodes.length

def distinct (code : Code) : StringSet := StringSet.ofList code.opcodes

def diversity (code : Code) : Nat := code.distinct.toList.length

def countOf (code : Code) (mnemonics : List String) : Nat :=
  code.opcodes.countP mnemonics.contains

/-- The share of opcodes that are among the given ones, zero where there are none at all. -/
def shareOf {K : Type} [Scalar K] (code : Code) (mnemonics : List String) : K :=
  if code.opcodes.isEmpty then Scalar.zero else Scalar.ratio (code.countOf mnemonics) code.length

end Code

end Honeypot
