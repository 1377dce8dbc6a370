import Honeypot.Analysis
import Honeypot.Config.Standard
import Honeypot.Proofs.Bytecode.Assigned
import Honeypot.Proofs.Verdict.Account

namespace Honeypot

/-- The bytecode of a contract is there, spells bytes, and has an assigned opcode among them. -/
def Dossier.CodeCheckable (dossier : Dossier) : Prop :=
  ∃ text bytes, dossier.bytecode = some text ∧ Hex.IsSpelling text bytes ∧
    ∃ byte ∈ bytes, Opcode.Assigned byte

/-- One of the external engines answered with a finding. -/
def Answered {K : Type} (answer : Option (Answer K)) : Prop :=
  ∃ finding, answer = some (.ok finding)

namespace Config

variable {K : Type} [Scalar K] (c : Config K) (dossier : Dossier) (external : External K)

/-- Bytecode that can be checked is checked, and otherwise it is told why not. -/
theorem inspectBytecode_cases :
    (dossier.CodeCheckable ∧ ∃ f, c.inspectBytecode dossier.bytecode = .ran f) ∨
    (¬dossier.CodeCheckable ∧
      ∃ reason, c.inspectBytecode dossier.bytecode = .unavailable .bytecode (some reason)) := by
  cases hcode : dossier.bytecode with
  | none =>
      refine .inr ⟨?_, _, rfl⟩
      rintro ⟨text, bytes, htext, -⟩
      rw [hcode] at htext
      cases htext
  | some text =>
      have hcheckable (hdossier : dossier.CodeCheckable) : ∃ bytes,
          Code.decode text = .ok (Code.ofBytes bytes) ∧ (Code.ofBytes bytes).opcodes ≠ [] := by
        obtain ⟨text', bytes, htext, hspelling, byte, hbyte, hassigned⟩ := hdossier
        obtain rfl := Option.some.inj (hcode.symm.trans htext)
        refine ⟨bytes, Code.decode_of_isSpelling hspelling, fun hnil => ?_⟩
        exact Code.opcodes_ofBytes_eq_nil_iff.mp hnil byte hbyte hassigned
      cases hdecode : Code.decode text with
      | error fault =>
          refine .inr ⟨?_, fault.message, ?_⟩
          · intro h
            obtain ⟨bytes, hok, -⟩ := hcheckable h
            rw [hdecode] at hok
            cases hok
          · simp only [inspectBytecode, hdecode]
      | ok code =>
          obtain ⟨bytes, hspelling, rfl⟩ := Code.decode_eq_ok_iff.mp hdecode
          by_cases hnil : (Code.ofBytes bytes).opcodes = []
          · refine .inr ⟨?_, "bytecode has no decodable opcodes", ?_⟩
            · intro h
              obtain ⟨bytes', hok, hsome⟩ := hcheckable h
              rw [hdecode] at hok
              rw [Except.ok.inj hok] at hnil
              exact hsome hnil
            · simp only [inspectBytecode, hdecode, hnil, List.isEmpty_nil, if_true]
          · have hassigned : ∃ byte ∈ bytes, Opcode.Assigned byte := by
              by_contra hnone
              exact hnil (Code.opcodes_ofBytes_eq_nil_iff.mpr fun byte hbyte hassigned =>
                hnone ⟨byte, hbyte, hassigned⟩)
            refine .inl ⟨⟨text, bytes, hcode, hspelling, hassigned⟩,
              c.scanCode (Code.ofBytes bytes), ?_⟩
            simp only [inspectBytecode, hdecode, List.isEmpty_eq_false_iff.mpr hnil]
            rfl

abbrev outcomesOf : Outcomes K := merge (c.inspect dossier) external

theorem ran_bytecode_iff :
    (c.outcomesOf dossier external).Ran .bytecode ↔ dossier.CodeCheckable := by
  have houtcome : c.outcomesOf dossier external .bytecode =
      some (c.inspectBytecode dossier.bytecode) := rfl
  rcases c.inspectBytecode_cases dossier with ⟨hcheckable, f, hf⟩ | ⟨hcheckable, reason, hreason⟩
  · refine iff_of_true ⟨f, ?_⟩ hcheckable
    rw [houtcome, hf]
  · refine iff_of_false ?_ hcheckable
    rintro ⟨f, hf⟩
    rw [houtcome, hreason] at hf
    cases hf

theorem tells_bytecode_iff :
    (∃ outcome reason, c.outcomesOf dossier external .bytecode = some outcome ∧
      outcome.Tells reason) ↔ ¬dossier.CodeCheckable := by
  have houtcome : c.outcomesOf dossier external .bytecode =
      some (c.inspectBytecode dossier.bytecode) := rfl
  rcases c.inspectBytecode_cases dossier with ⟨hcheckable, f, hf⟩ | ⟨hcheckable, reason, hreason⟩
  · refine iff_of_false ?_ (not_not.mpr hcheckable)
    rintro ⟨outcome, reason, h, htells⟩
    rw [houtcome, hf] at h
    obtain rfl := Option.some.inj h
    cases htells
  · refine iff_of_true ⟨_, reason, houtcome, ?_⟩ hcheckable
    rw [hreason]
    exact .unavailable .bytecode reason

omit [Scalar K] in
theorem exists_ran_iff {α : Type} (inspect : Option α → Outcome K) (given : Option α)
    (hsome : ∀ evidence, ∃ f, inspect (some evidence) = .ran f)
    (hnone : ∃ d, inspect none = .unavailable d none) :
    (∃ f, some (inspect given) = some (.ran f)) ↔ given ≠ none := by
  cases given with
  | none =>
      obtain ⟨d, hd⟩ := hnone
      refine iff_of_false ?_ (not_not.mpr rfl)
      rintro ⟨f, hf⟩
      rw [hd] at hf
      cases hf
  | some evidence =>
      obtain ⟨f, hf⟩ := hsome evidence
      exact iff_of_true ⟨f, congrArg some hf⟩ (Option.some_ne_none evidence)

theorem ran_functions_iff :
    (c.outcomesOf dossier external).Ran .functions ↔ dossier.abi ≠ none :=
  exists_ran_iff c.inspectAbi dossier.abi (fun _ => ⟨_, rfl⟩) ⟨_, rfl⟩

theorem ran_source_iff :
    (c.outcomesOf dossier external).Ran .source ↔ dossier.source ≠ none :=
  exists_ran_iff c.inspectSource dossier.source (fun _ => ⟨_, rfl⟩) ⟨_, rfl⟩

theorem ran_history_iff :
    (c.outcomesOf dossier external).Ran .history ↔ dossier.history ≠ none :=
  exists_ran_iff (c.inspectHistory · dossier.address) dossier.history (fun _ => ⟨_, rfl⟩)
    ⟨_, rfl⟩

omit [Scalar K] in
theorem exists_outcome_iff_answered (answer : Option (Answer K)) :
    (∃ f, (answer.map External.outcome).or none = some (.ran f)) ↔ Answered answer := by
  rcases answer with _ | ⟨failure⟩ | finding <;> simp [Answered, External.outcome]

theorem ran_ml_iff : (c.outcomesOf dossier external).Ran .ml ↔ Answered external.ml :=
  exists_outcome_iff_answered external.ml

theorem ran_symbolic_iff :
    (c.outcomesOf dossier external).Ran .symbolic ↔ Answered external.symbolic :=
  exists_outcome_iff_answered external.symbolic

theorem forall_not_ran_iff : (∀ d, ¬(c.outcomesOf dossier external).Ran d) ↔
    ¬dossier.CodeCheckable ∧ dossier.abi = none ∧ dossier.source = none ∧ dossier.history = none ∧
      ¬Answered external.ml ∧ ¬Answered external.symbolic := by
  rw [← c.ran_bytecode_iff dossier external, ← c.ran_ml_iff dossier external,
    ← c.ran_symbolic_iff dossier external]
  have hnone {α : Type} {given : Option α} {p : Prop} (h : p ↔ given ≠ none) :
      given = none ↔ ¬p := by rw [h, not_not]
  rw [hnone (c.ran_functions_iff dossier external), hnone (c.ran_source_iff dossier external),
    hnone (c.ran_history_iff dossier external)]
  constructor
  · intro h
    exact ⟨h _, h _, h _, h _, h _, h _⟩
  · rintro ⟨hbytecode, hfunctions, hsource, hhistory, hml, hsymbolic⟩ d
    cases d with
    | bytecode => exact hbytecode
    | functions => exact hfunctions
    | source => exact hsource
    | history => exact hhistory
    | ml => exact hml
    | symbolic => exact hsymbolic

theorem analyze_of_chain_ne_zero (h : dossier.chain ≠ 0) :
    c.analyze dossier external = .ok (c.aggregate (c.outcomesOf dossier external)) := by
  rw [analyze, Dossier.validate, if_neg h]
  rfl

theorem analyze_of_chain_eq_zero (h : dossier.chain = 0) :
    c.analyze dossier external = .error .zeroChain := by
  rw [analyze, Dossier.validate, if_pos h]
  rfl

theorem chain_ne_zero_of_ofText {text : String} {dossier : Dossier}
    (h : Dossier.ofText text = .ok dossier) : dossier.chain ≠ 0 := by
  intro hzero
  rw [Dossier.ofText] at h
  cases hparse : Dossier.parse text with
  | error fault =>
      rw [hparse] at h
      cases h
  | ok parsed =>
      rw [hparse] at h
      have hbind : (do parsed.validate; return parsed : Except Fault Dossier) = .ok dossier := h
      rw [Dossier.validate] at hbind
      split at hbind
      · cases hbind
      · rename_i hchain
        obtain rfl : parsed = dossier := Except.ok.inj hbind
        exact hchain hzero

/-- The level of a contract is unknown if and only if there was nothing that could be checked.
That the bytecode could not be checked is always told, and it is never left without a reason why a
level is unknown. Only the chain number zero is an error, which no text that was read has. -/
theorem unknown_iff_nothing_checkable :
    (dossier.chain = 0 → c.analyze dossier external = .error .zeroChain ∧
      Fault.zeroChain.code = "INPUT_INVALID") ∧
    (dossier.chain ≠ 0 → ∃ v, c.analyze dossier external = .ok v ∧
      (v.risk = .unknown ↔
        ¬dossier.CodeCheckable ∧ dossier.abi = none ∧ dossier.source = none ∧
          dossier.history = none ∧ ¬Answered external.ml ∧ ¬Answered external.symbolic) ∧
      ((∃ o ∈ v.omissions, o.detector = "bytecode_pattern") ↔ ¬dossier.CodeCheckable) ∧
      ∀ o ∈ v.omissions, o.detector ≠ "aggregator") ∧
    ∀ text, Dossier.ofText text = .ok dossier → ∃ v, c.analyze dossier external = .ok v := by
  refine ⟨?_, ?_, ?_⟩
  · intro h
    exact ⟨c.analyze_of_chain_eq_zero dossier external h, rfl⟩
  · intro h
    refine ⟨_, c.analyze_of_chain_ne_zero dossier external h, ?_, ?_, ?_⟩
    · rw [risk_aggregate_eq_unknown_iff]
      exact c.forall_not_ran_iff dossier external
    · exact (c.exists_omission_iff _ .bytecode).trans (c.tells_bytecode_iff dossier external)
    · apply c.ne_aggregatorName_of_mem_omissions (d := .bytecode)
      by_cases hcheckable : dossier.CodeCheckable
      · exact .inl ((c.ran_bytecode_iff dossier external).mpr hcheckable)
      · exact .inr ((c.tells_bytecode_iff dossier external).mpr hcheckable)
  · intro text h
    exact ⟨_, c.analyze_of_chain_ne_zero dossier external (chain_ne_zero_of_ofText h)⟩

/-- A contract of which nothing is known but bytecode without an assigned opcode. -/
def unassigned (chain : UInt64) : Dossier :=
  { Dossier.blank ⟨7⟩ chain with bytecode := some "0x0C" }

theorem not_checkable_unassigned (chain : UInt64) : ¬(unassigned chain).CodeCheckable := by
  rintro ⟨text, bytes, htext, hspelling, byte, hbyte, hassigned⟩
  obtain rfl := Option.some.inj htext
  have hdecode : Code.decode "0x0C" = .ok ⟨[]⟩ := rfl
  rw [Code.decode_of_isSpelling hspelling] at hdecode
  have hnil : (Code.ofBytes bytes).opcodes = [] := by rw [Except.ok.inj hdecode]
  exact Code.opcodes_ofBytes_eq_nil_iff.mp hnil byte hbyte hassigned

def unassignedText : String :=
  "\x7b\"address\":\"0x0000000000000000000000000000000000000007\",\"chain_id\":1," ++
    "\"bytecode\":\"0x0C\"\x7d"

theorem unknown_unassigned :
    (standard : Config Rat).analyze (unassigned 0) .none = .error .zeroChain ∧
    (∃ v, (standard : Config Rat).analyze (unassigned 1) .none = .ok v ∧ v.risk = .unknown ∧
      ∃ o ∈ v.omissions, o.detector = "bytecode_pattern") ∧
    Dossier.ofText unassignedText = .ok (unassigned 1) ∧
      ∃ v, (standard : Config Rat).analyze (unassigned 1) .none = .ok v := by
  have hzero := (standard : Config Rat).unknown_iff_nothing_checkable (unassigned 0) .none
  have hone := (standard : Config Rat).unknown_iff_nothing_checkable (unassigned 1) .none
  have hcheckable := not_checkable_unassigned 1
  obtain ⟨v, hv, hrisk, homission, -⟩ := hone.2.1 (by decide)
  have hml : ¬Answered (External.none : External Rat).ml := by
    rintro ⟨f, ⟨⟩⟩
  have htext : Dossier.ofText unassignedText = .ok (unassigned 1) := rfl
  refine ⟨(hzero.1 rfl).1, ⟨v, hv, ?_, homission.mpr hcheckable⟩, htext, hone.2.2 _ htext⟩
  exact hrisk.mpr ⟨hcheckable, rfl, rfl, rfl, hml, hml⟩

end Config

end Honeypot
