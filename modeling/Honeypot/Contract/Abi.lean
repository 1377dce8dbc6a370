import Honeypot.Chain.Keccak
import Honeypot.Json.Record
import Honeypot.Json.Value

namespace Honeypot

open Honeypot.Json

structure Parameter where
  name : String
  typeName : String
deriving DecidableEq

/-- What an entry may do with the state of the chain, and whether it takes money. -/
inductive Mutability
  | view
  | pure
  | nonpayable
  | payable
deriving DecidableEq

inductive EntryKind
  | function
  | event
  | constructor
  | fallback
  | receive
  | error
deriving DecidableEq

/-- An entry of an interface. Older interfaces mark payment by a flag, newer ones by the
mutability. -/
structure AbiEntry where
  name : String
  inputs : List Parameter
  payable : Bool
  mutability : Mutability
  kind : EntryKind
deriving DecidableEq

namespace Parameter

def toValue {K : Type} (p : Parameter) : Value K :=
  .object [("name", .text p.name), ("type", .text p.typeName)]

/-- Read a parameter; its name may be missing. -/
def ofTree? (t : Tree) : Option Parameter := do
  match ← t.fields? [["name"], ["type"]] with
  | [name, typeName] =>
      return {
        name := ← optional "" Tree.text? name
        typeName := ← required Tree.text? typeName }
  | _ => none

end Parameter

namespace Mutability

def table : List (String × Mutability) :=
  [("view", .view), ("pure", .pure), ("nonpayable", .nonpayable), ("payable", .payable)]

def name : Mutability → String
  | .view => "view"
  | .pure => "pure"
  | .nonpayable => "nonpayable"
  | .payable => "payable"

end Mutability

namespace EntryKind

def table : List (String × EntryKind) :=
  [("function", .function), ("event", .event), ("constructor", .constructor),
    ("fallback", .fallback), ("receive", .receive), ("error", .error)]

def name : EntryKind → String
  | .function => "function"
  | .event => "event"
  | .constructor => "constructor"
  | .fallback => "fallback"
  | .receive => "receive"
  | .error => "error"

end EntryKind

namespace AbiEntry

def function (name : String) (mutability : Mutability) : AbiEntry :=
  { name, inputs := [], payable := mutability = .payable, mutability, kind := .function }

def withInput (e : AbiEntry) (name typeName : String) : AbiEntry :=
  { e with inputs := e.inputs ++ [⟨name, typeName⟩] }

def mutatesState (e : AbiEntry) : Bool :=
  e.kind = .function && e.mutability ≠ .view && e.mutability ≠ .pure

def takesPayment (e : AbiEntry) : Bool := e.payable || e.mutability = .payable

def signature (e : AbiEntry) : String :=
  e.name ++ "(" ++ String.intercalate "," (e.inputs.map Parameter.typeName) ++ ")"

/-- The first four bytes of the hash of the signature. -/
def selector (e : AbiEntry) : String :=
  let bytes := (Keccak.hashText e.signature).take 4
  "0x" ++ String.ofList (bytes.flatMap fun byte =>
    [hexDigit (byte.toNat / 16), hexDigit byte.toNat])

def toValue {K : Type} (e : AbiEntry) : Value K :=
  .object [
    ("name", .text e.name),
    ("inputs", .array (e.inputs.map Parameter.toValue)),
    ("payable", .bool e.payable),
    ("stateMutability", .text e.mutability.name),
    ("type", .text e.kind.name)]

/-- Read an entry. A field that is missing has its default: no name, no inputs, not payable, a
function that may write state. -/
def ofTree? (t : Tree) : Option AbiEntry := do
  match ← t.fields? [["name"], ["inputs"], ["payable"], ["stateMutability"], ["type"]] with
  | [name, inputs, payable, mutability, kind] =>
      return {
        name := ← optional "" Tree.text? name
        inputs := ← optional [] (Tree.list? Parameter.ofTree?) inputs
        payable := ← optional false Tree.bool? payable
        mutability := ← optional .nonpayable (Tree.choice? Mutability.table) mutability
        kind := ← optional .function (Tree.choice? EntryKind.table) kind }
  | _ => none

end AbiEntry

end Honeypot
