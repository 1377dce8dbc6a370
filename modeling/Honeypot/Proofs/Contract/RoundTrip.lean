import Honeypot.Contract.Dossier
import Honeypot.Proofs.Chain.Hex
import Honeypot.Proofs.Json.Record

namespace Honeypot

open Honeypot.Json

theorem Parameter.ofTree?_tree (p : Parameter) : ofTree? (Value.tree p.toValue) = some p := rfl

theorem Mutability.choice?_name (m : Mutability) :
    Tree.choice? table (.text (some m.name)) = some m := by
  cases m <;> rfl

theorem EntryKind.choice?_name (k : EntryKind) :
    Tree.choice? table (.text (some k.name)) = some k := by
  cases k <;> rfl

theorem AbiEntry.ofTree?_tree (e : AbiEntry) : ofTree? (Value.tree e.toValue) = some e := by
  have hfields : (Value.tree e.toValue).fields? [["name"], ["inputs"], ["payable"],
      ["stateMutability"], ["type"]] = some [some (.text (some e.name)),
        some (Value.tree (.array (e.inputs.map Parameter.toValue))), some (.bool e.payable),
        some (.text (some e.mutability.name)), some (.text (some e.kind.name))] := rfl
  have hname : Tree.text? (.text (some e.name)) = some e.name := rfl
  have hinputs := list?_tree Parameter.ofTree?_tree e.inputs
  have hpayable : Tree.bool? (.bool e.payable) = some e.payable := rfl
  have hmutability := e.mutability.choice?_name
  have hkind := e.kind.choice?_name
  simp only [ofTree?, hfields, optional_some, Option.bind_eq_bind, Option.bind_some,
    hname, hinputs, hpayable, hmutability, hkind]
  rfl

theorem Transaction.fields?_tree (t : Transaction) :
    (Value.tree t.toValue).fields? [["hash"], ["from", "from_address"], ["to", "to_address"],
      ["value"], ["input", "input_data"], ["block_number"], ["timestamp"], ["receipt_status"]] =
      some [some (.text (some t.hash.write)), some (.text (some t.sender.write)),
        some (Value.tree (Value.ofOption (fun a => .text a.write) t.recipient)),
        some (.text (some t.value.write)), some (.text (some t.input)),
        some (Value.tree (.int t.blockNumber.toNat)), some (Value.tree (.int t.timestamp.toNat)),
        t.succeeded.map Tree.bool] := by
  rw [toValue, members]
  cases t.succeeded <;> rfl

theorem Transaction.ofTree?_tree (t : Transaction) : ofTree? (Value.tree t.toValue) = some t := by
  have hhash := t.hash.ofTree?_write
  have hsender := t.sender.ofTree?_write
  have hrecipient : Tree.nullable? Address.ofTree?
      (Value.tree (Value.ofOption (fun a => .text a.write) t.recipient)) = some t.recipient := by
    cases t.recipient with
    | none => rfl
    | some a =>
        show (Address.ofTree? (.text (some a.write))).map some = some (some a)
        rw [a.ofTree?_write, Option.map_some]
  have hvalue := t.value.ofTree?_write
  have hinput : Tree.text? (.text (some t.input)) = some t.input := rfl
  have hblock := word?_tree t.blockNumber
  have htimestamp := word?_tree t.timestamp
  have hsucceeded := optional_nullable_map Tree.bool? Tree.bool (fun _ => rfl) t.succeeded
  simp only [ofTree?, t.fields?_tree, required_some, optional_some, Option.bind_eq_bind,
    Option.bind_some, hhash, hsender, hrecipient, hvalue, hinput, hblock, htimestamp, hsucceeded]
  rfl

namespace Dossier

theorem fields?_tree (d : Dossier) :
    (Value.tree d.toValue).fields? [["address"], ["chain_id"], ["bytecode"], ["abi"],
      ["source_code"], ["transactions"]] =
      some [some (.text (some d.address.write)), some (Value.tree (.int d.chain.toNat)),
        d.bytecode.map (.text ∘ some),
        d.abi.map fun abi => Value.tree (.array (abi.map AbiEntry.toValue)),
        d.source.map (.text ∘ some),
        d.history.map fun history => Value.tree (.array (history.map Transaction.toValue))] := by
  rw [toValue]
  cases d.bytecode <;> cases d.abi <;> cases d.source <;> cases d.history <;> rfl

theorem ofTree?_tree (d : Dossier) : ofTree? (Value.tree d.toValue) = some d := by
  have haddress := d.address.ofTree?_write
  have hchain := word?_tree d.chain
  have hbytecode := optional_nullable_map Tree.text? (.text ∘ some) (fun _ => rfl) d.bytecode
  have habi := optional_nullable_map _ _ (nullable?_list?_tree AbiEntry.ofTree?_tree) d.abi
  have hsource := optional_nullable_map Tree.text? (.text ∘ some) (fun _ => rfl) d.source
  have hhistory :=
    optional_nullable_map _ _ (nullable?_list?_tree Transaction.ofTree?_tree) d.history
  simp only [ofTree?, d.fields?_tree, required_some, Option.bind_eq_bind, Option.bind_some,
    haddress, hchain, hbytecode, habi, hsource, hhistory]
  rfl

theorem parse_toText (d : Dossier) : parse d.toText = .ok d := by
  rw [parse, toText, Value.ofText?_toText, Option.bind_some, ofTree?_tree]

theorem ofText_eq_of_parse {text : String} {d : Dossier} (h : parse text = .ok d) :
    ofText text = if d.chain = 0 then .error .zeroChain else .ok d := by
  rw [ofText, h]
  show (d.validate.bind fun _ => Except.ok d) = _
  rw [validate]
  split <;> rfl

/-- A dossier is read back from its text, except for one with the chain number zero, whose text is
refused. No two dossiers have the same text, so what is absent is not taken for what is empty. -/
theorem survives_text :
    (∀ d : Dossier, ofText d.toText = if d.chain = 0 then .error .zeroChain else .ok d) ∧
    Fault.zeroChain.code = "INPUT_INVALID" ∧ Function.Injective toText := by
  refine ⟨?_, rfl, ?_⟩
  · intro d
    exact ofText_eq_of_parse d.parse_toText
  · intro d e h
    have hparse := d.parse_toText
    rw [h, e.parse_toText] at hparse
    exact (Except.ok.inj hparse).symm

end Dossier

end Honeypot
