import Honeypot.Contract.Abi
import Honeypot.Contract.Transaction
import Honeypot.Fault

namespace Honeypot

open Honeypot.Json

/-- The evidence about a contract. What is not known is absent, which is not the same as empty.
The history is listed from the earliest transaction on. -/
structure Dossier where
  address : Address
  chain : UInt64
  bytecode : Option String
  abi : Option (List AbiEntry)
  source : Option String
  history : Option (List Transaction)
deriving DecidableEq

namespace Dossier

def blank (address : Address) (chain : UInt64) : Dossier :=
  { address, chain, bytecode := none, abi := none, source := none, history := none }

/-- Check what the shape of the data does not say. -/
def validate (d : Dossier) : Except Fault Unit :=
  if d.chain = 0 then .error .zeroChain else .ok ()

def member {K α : Type} (name : String) (toValue : α → Value K) :
    Option α → List (String × Value K)
  | some a => [(name, toValue a)]
  | none => []

/-- The dossier as a JSON value. What is absent is left out. -/
def toValue {K : Type} (d : Dossier) : Value K :=
  .object (
    [("address", .text d.address.write), ("chain_id", .int d.chain.toNat)] ++
    member "bytecode" .text d.bytecode ++
    member "abi" (fun abi => .array (abi.map AbiEntry.toValue)) d.abi ++
    member "source_code" .text d.source ++
    member "transactions" (fun history => .array (history.map Transaction.toValue)) d.history)

def toText (d : Dossier) : String := Value.toText d.toValue

def ofTree? (t : Tree) : Option Dossier := do
  match ← t.fields? [["address"], ["chain_id"], ["bytecode"], ["abi"], ["source_code"],
      ["transactions"]] with
  | [address, chain, bytecode, abi, source, history] =>
      return {
        address := ← required Address.ofTree? address
        chain := ← required Tree.word? chain
        bytecode := ← optional none (Tree.nullable? Tree.text?) bytecode
        abi := ← optional none (Tree.nullable? (Tree.list? AbiEntry.ofTree?)) abi
        source := ← optional none (Tree.nullable? Tree.text?) source
        history := ← optional none (Tree.nullable? (Tree.list? Transaction.ofTree?)) history }
  | _ => none

def parse (text : String) : Except Fault Dossier :=
  match (Tree.ofText? text).bind ofTree? with
  | some dossier => .ok dossier
  | none => .error .notJson

def ofText (text : String) : Except Fault Dossier := do
  let dossier ← parse text
  dossier.validate
  return dossier

end Dossier

end Honeypot
