import Honeypot.Chain.Address
import Honeypot.Chain.Wei
import Honeypot.Json.Value

namespace Honeypot

open Honeypot.Json

/-- A transaction. One that creates a contract has no recipient, and whether it succeeded is known
only where its receipt is. -/
structure Transaction where
  hash : TxHash
  sender : Address
  recipient : Option Address
  value : Wei
  input : String
  blockNumber : UInt64
  timestamp : UInt64
  succeeded : Option Bool
deriving DecidableEq

namespace Transaction

def transfer (hash : TxHash) (sender recipient : Address) (value : Wei) (timestamp : UInt64) :
    Transaction :=
  { hash, sender, recipient := some recipient, value, input := "", blockNumber := 0, timestamp,
    succeeded := none }

def withReceipt (t : Transaction) (succeeded : Bool) : Transaction :=
  { t with succeeded := some succeeded }

def isSentTo (t : Transaction) (a : Address) : Bool := t.recipient = some a

def isSentFrom (t : Transaction) (a : Address) : Bool := t.sender = a

def carriesValue (t : Transaction) : Bool := t.value.toNat ≠ 0

/-- The members of a transaction as a JSON object. A receipt that is not known is left out. -/
def members {K : Type} (t : Transaction) : List (String × Value K) :=
  [("hash", .text t.hash.write),
    ("from", .text t.sender.write),
    ("to", Value.ofOption (fun a => .text a.write) t.recipient),
    ("value", .text t.value.write),
    ("input", .text t.input),
    ("block_number", .int t.blockNumber.toNat),
    ("timestamp", .int t.timestamp.toNat)] ++
  match t.succeeded with
  | some succeeded => [("receipt_status", .bool succeeded)]
  | none => []

def toValue {K : Type} (t : Transaction) : Value K := .object t.members

/-- Read a transaction. Hash, sender and time have to be given. -/
def ofTree? (t : Tree) : Option Transaction := do
  match ← t.fields? [["hash"], ["from", "from_address"], ["to", "to_address"], ["value"],
      ["input", "input_data"], ["block_number"], ["timestamp"], ["receipt_status"]] with
  | [hash, sender, recipient, value, input, blockNumber, timestamp, succeeded] =>
      return {
        hash := ← required TxHash.ofTree? hash
        sender := ← required Address.ofTree? sender
        recipient := ← optional none (Tree.nullable? Address.ofTree?) recipient
        value := ← optional Wei.zero Wei.ofTree? value
        input := ← optional "" Tree.text? input
        blockNumber := ← optional 0 Tree.word? blockNumber
        timestamp := ← required Tree.word? timestamp
        succeeded := ← optional none (Tree.nullable? Tree.bool?) succeeded }
  | _ => none

end Transaction

end Honeypot
