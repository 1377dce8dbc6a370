import Honeypot.Chain.Hex
import Honeypot.Chain.Keccak

namespace Honeypot

open Honeypot.Json

structure Address where
  bits : BitVec 160
deriving DecidableEq

namespace Address

def zero : Address := ⟨0⟩

instance : Inhabited Address := ⟨zero⟩

/-- Read an address. The case of its letters is not checked. -/
def ofTree? (t : Tree) : Option Address := (Hex.field? 20 t).map fun n => ⟨BitVec.ofNat 160 n⟩

def write (a : Address) : String := Hex.writeField 20 a.bits.toNat

/-- Write an address with its checksum: a letter is upper case where the hash of the lower-case
digits has a digit of eight or more. -/
def checksummed (a : Address) : String :=
  let digits := Hex.ofWidth 40 a.bits.toNat
  let hash := (Keccak.hashText (String.ofList digits)).flatMap fun byte =>
    [byte.toNat / 16, byte.toNat % 16]
  String.ofList ('0' :: 'x' ::
    List.zipWith (fun digit mark => if 8 ≤ mark then digit.toUpper else digit) digits hash)

end Address

structure TxHash where
  bits : BitVec 256
deriving DecidableEq

namespace TxHash

instance : Inhabited TxHash := ⟨⟨0⟩⟩

def ofTree? (t : Tree) : Option TxHash := (Hex.field? 32 t).map fun n => ⟨BitVec.ofNat 256 n⟩

def write (h : TxHash) : String := Hex.writeField 32 h.bits.toNat

end TxHash

end Honeypot
