import Honeypot.Config.Standard
import Honeypot.Proofs.Analysis.Unknown
import Honeypot.Proofs.Detect.Relabel

namespace Honeypot

/-- What a verdict tells under the name of a detector: the finding, and the omissions. -/
def Verdict.entry {K : Type} (v : Verdict K) (d : Detector) :
    Option (Finding K) × List Omission :=
  (v.findings.find? d.name, v.omissions.filter fun o => o.detector = d.name)

/-- Two contracts with two pairs of answers agree in all that a detector stands for. -/
def Agree {K : Type} (a b : Dossier) (e f : External K) : Detector → Prop
  | .bytecode => a.bytecode = b.bytecode
  | .functions => a.abi = b.abi
  | .source => a.source = b.source
  | .history => a.history = b.history ∧ a.address = b.address
  | .ml => e.ml = f.ml
  | .symbolic => e.symbolic = f.symbolic

/-- Contracts that differ in what no detector reads: the chain, the inputs and the block numbers
of transactions, and the address where there are none. -/
structure Dossier.Alike (a b : Dossier) : Prop where
  bytecode : a.bytecode = b.bytecode
  abi : a.abi = b.abi
  source : a.source = b.source
  history : a.history.map (·.map Transaction.bare) = b.history.map (·.map Transaction.bare)
  address : a.history ≠ none → a.address = b.address

namespace Config

variable {K : Type} [Scalar K] (c : Config K)

theorem entry_aggregate (outcomes : Outcomes K) (d : Detector) :
    (c.aggregate outcomes).entry d = (outcomes.finding? d, (outcomes.omission? d).toList) := by
  rw [Verdict.entry, find?_findings_aggregate, filter_omissions_aggregate]

theorem entry_aggregate_congr {outcomes outcomes' : Outcomes K} {d : Detector}
    (h : outcomes d = outcomes' d) :
    (c.aggregate outcomes).entry d = (c.aggregate outcomes').entry d := by
  simp only [entry_aggregate, Outcomes.finding?, Outcomes.omission?, h]

theorem outcomesOf_congr {a b : Dossier} {e f : External K} {d : Detector} (h : Agree a b e f d) :
    c.outcomesOf a e d = c.outcomesOf b f d := by
  cases d with
  | bytecode => exact congrArg (fun code => some (c.inspectBytecode code)) h
  | functions => exact congrArg (fun abi => some (c.inspectAbi abi)) h
  | source => exact congrArg (fun source => some (c.inspectSource source)) h
  | history => exact congrArg₂ (fun history a => some (c.inspectHistory history a)) h.1 h.2
  | ml => exact congrArg (fun answer => (Option.map External.outcome answer).or none) h
  | symbolic => exact congrArg (fun answer => (Option.map External.outcome answer).or none) h

theorem outcomesOf_of_mem_internal (dossier : Dossier) (external : External K) {d : Detector}
    (hd : d ∈ Detector.internal) : c.outcomesOf dossier external d = c.inspect dossier d := by
  cases d with
  | ml | symbolic => exact absurd hd (by decide)
  | _ => rfl

theorem inspectHistory_congr {a b : Dossier} (h : a.Alike b) :
    c.inspectHistory a.history a.address = c.inspectHistory b.history b.address := by
  have hhistory := h.history
  have haddress := h.address
  cases ha : a.history with
  | none =>
      cases hb : b.history with
      | none => rfl
      | some later => simp [ha, hb] at hhistory
  | some earlier =>
      cases hb : b.history with
      | none => simp [ha, hb] at hhistory
      | some later =>
          have hbare : earlier.map Transaction.bare = later.map Transaction.bare := by
            simpa [ha, hb] using hhistory
          rw [← haddress (by simp [ha]), inspectHistory, inspectHistory,
            ← c.scanHistory_map_bare earlier, hbare, c.scanHistory_map_bare]

theorem outcomesOf_eq_of_alike {a b : Dossier} (h : a.Alike b) (external : External K) :
    c.outcomesOf a external = c.outcomesOf b external := by
  funext d
  cases d with
  | history => exact congrArg some (c.inspectHistory_congr h)
  | bytecode => exact c.outcomesOf_congr h.bytecode
  | functions => exact c.outcomesOf_congr h.abi
  | source => exact c.outcomesOf_congr h.source
  | ml | symbolic => exact c.outcomesOf_congr rfl

/-- Two verdicts tell the same of a detector wherever the contracts and the answers agree in what
this detector stands for. What is told of a detector that reads the evidence is what it comes to
by itself, whatever the engines answer and whomever they name. Contracts that differ in what no
detector reads have the same verdict. -/
theorem evidence_is_local {a b : Dossier} (ha : a.chain ≠ 0) (hb : b.chain ≠ 0)
    (e f : External K) :
    ∃ v w, c.analyze a e = .ok v ∧ c.analyze b f = .ok w ∧
      (∀ d, Agree a b e f d → v.entry d = w.entry d) ∧
      (∀ d ∈ Detector.internal, ∀ g, ∃ u, c.analyze a g = .ok u ∧ u.entry d = v.entry d) ∧
      (∀ d ∈ Detector.internal, v.entry d =
        (Outcomes.finding? (c.inspect a) d, (Outcomes.omission? (c.inspect a) d).toList)) ∧
      (a.Alike b → e = f → v = w) := by
  refine ⟨_, _, c.analyze_of_chain_ne_zero a e ha, c.analyze_of_chain_ne_zero b f hb,
    ?_, ?_, ?_, ?_⟩
  · intro d hagree
    apply entry_aggregate_congr
    exact c.outcomesOf_congr hagree
  · intro d hd g
    refine ⟨_, c.analyze_of_chain_ne_zero a g ha, ?_⟩
    apply entry_aggregate_congr
    rw [c.outcomesOf_of_mem_internal a g hd, c.outcomesOf_of_mem_internal a e hd]
  · intro d hd
    rw [← entry_aggregate]
    apply entry_aggregate_congr
    exact c.outcomesOf_of_mem_internal a e hd
  · rintro halike rfl
    rw [c.outcomesOf_eq_of_alike halike e]

/-- A contract of bytecode without an assigned opcode and with one transaction, which stands in
the given block of the given chain and bears the given input. -/
def recordedOn (chain block : UInt64) (input : String) : Dossier :=
  { unassigned chain with
    history := some [
      { Transaction.transfer ⟨1⟩ ⟨3⟩ ⟨7⟩ ⟨5⟩ 1000 with input, blockNumber := block }] }

def impostors : External Rat where
  ml := some (.ok ⟨"bytecode_pattern", 1, StringSet.ofList ["Forged"], .empty⟩)
  symbolic := some (.error ⟨.bytecode, "forged"⟩)

theorem evidence_is_local_impostors :
    (recordedOn 1 2 "0x").chain ≠ 0 ∧ (recordedOn 8 9 "0xff").chain ≠ 0 ∧
    ∃ v, (standard : Config Rat).analyze (recordedOn 1 2 "0x") impostors = .ok v ∧
      (standard : Config Rat).analyze (recordedOn 8 9 "0xff") impostors = .ok v ∧
      v.entry .bytecode = (none, [⟨"bytecode_pattern", "bytecode has no decodable opcodes"⟩]) ∧
      ∃ w, (standard : Config Rat).analyze (unassigned 3) .none = .ok w ∧
        v.entry .bytecode = w.entry .bytecode := by
  have hchain : (recordedOn 1 2 "0x").chain ≠ 0 := by decide
  have hchain' : (recordedOn 8 9 "0xff").chain ≠ 0 := by decide
  have halike : (recordedOn 1 2 "0x").Alike (recordedOn 8 9 "0xff") :=
    ⟨rfl, rfl, rfl, rfl, fun _ => rfl⟩
  obtain ⟨v, v', hv, hv', -, -, hown, heq⟩ :=
    (standard : Config Rat).evidence_is_local hchain hchain' impostors impostors
  obtain rfl := heq halike rfl
  obtain ⟨u, w, hu, hw, hentry, -⟩ := (standard : Config Rat).evidence_is_local hchain
    (b := unassigned 3) (by decide) impostors .none
  obtain rfl : u = v := Except.ok.inj (hu.symm.trans hv)
  exact ⟨hchain, hchain', u, hv, hv', (hown .bytecode (by decide)).trans rfl, w, hw,
    hentry .bytecode rfl⟩

end Config

end Honeypot
