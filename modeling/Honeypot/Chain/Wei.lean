import Honeypot.Chain.Hex
import Honeypot.Scalar

namespace Honeypot

open Honeypot.Json

structure Wei where
  bits : BitVec 256
deriving DecidableEq

namespace Wei

instance : Inhabited Wei := ⟨⟨0⟩⟩

def toNat (w : Wei) : Nat := w.bits.toNat

def ofNat? (n : Nat) : Option Wei := if n < Nat.pow 2 256 then some ⟨BitVec.ofNat 256 n⟩ else none

def zero : Wei := ⟨0⟩

/-- A product, or the largest amount where the product does not fit. -/
def saturatingMul (w : Wei) (n : Nat) : Nat := min (w.toNat * n) (Nat.pow 2 256 - 1)

/-- The base that the front of a text announces, and what follows. -/
def splitBase : List Char → Nat × List Char
  | '0' :: mark :: rest =>
      if mark == 'x' || mark == 'X' then (16, rest)
      else if mark == 'o' || mark == 'O' then (8, rest)
      else if mark == 'b' || mark == 'B' then (2, rest)
      else (10, '0' :: mark :: rest)
  | text => (10, text)

/-- The number that a text spells in a base. Underscores are passed over, and no digits are
zero. -/
def digits? (base : Nat) (text : List Char) : Option Nat :=
  text.foldlM (fun n c =>
    if c == '_' then some n
    else ((hexValue? c).filter (· < base)).map (base * n + ·)) 0

def ofText? (text : String) : Option Wei :=
  let (base, digits) := splitBase text.toList
  (digits? base digits).bind ofNat?

def ofTree? : Tree → Option Wei
  | .text (some text) => ofText? text
  | .number n => (n.toNat?.filter (· < Nat.pow 2 64)).bind ofNat?
  | _ => none

def write (w : Wei) : String := String.ofList ('0' :: 'x' :: Nat.toDigits 16 w.toNat)

def decimal (w : Wei) : String := String.ofList (Nat.toDigits 10 w.toNat)

/-- The amount in units of `10 ^ 18`. Amounts beyond 128 bits count as the largest of 128 bits. -/
def toEther {K : Type} [Scalar K] (w : Wei) : K :=
  Scalar.ratio (min w.toNat (Nat.pow 2 128 - 1)) (Nat.pow 10 18)

end Wei

end Honeypot
