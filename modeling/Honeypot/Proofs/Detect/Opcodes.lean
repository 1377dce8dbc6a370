import Honeypot.Proofs.Bytecode.Assigned
import Honeypot.Proofs.Detect.Range
import Honeypot.Proofs.StringMap

namespace Honeypot

open Honeypot.Json

/-- The rules that one finding on bytecode names are among those of the other, in the same
order. -/
structure Finding.PatternsWithin (f f' : Finding ℚ) : Prop where
  matched : ∃ ids ids', f.evidence.find? "matched_patterns" = some (.ofTexts ids) ∧
    f'.evidence.find? "matched_patterns" = some (.ofTexts ids') ∧ ids.Sublist ids'
  techniques : f.techniques.toList ⊆ f'.techniques.toList

/-- Two findings on bytecode name the same rules, and are alike in all that comes from them. -/
structure Finding.SamePatterns (f f' : Finding ℚ) : Prop where
  matched : ∃ ids, f.evidence.find? "matched_patterns" = some (.ofTexts ids) ∧
    f'.evidence.find? "matched_patterns" = some (.ofTexts ids)
  techniques : f.techniques = f'.techniques
  confidence : f.confidence = f'.confidence
  diversity : ∃ diversity, f.evidence.find? "opcode_diversity" = some (.ofNat diversity) ∧
    f'.evidence.find? "opcode_diversity" = some (.ofNat diversity)

theorem Code.diversity_congr {code code' : Code}
    (h : ∀ mnemonic, mnemonic ∈ code.opcodes ↔ mnemonic ∈ code'.opcodes) :
    code.diversity = code'.diversity := by
  have hdistinct : code.distinct = code'.distinct := StringSet.ext_toList fun mnemonic => by
    rw [distinct, distinct, StringSet.mem_toList_ofList, StringSet.mem_toList_ofList, h]
  rw [diversity, diversity, hdistinct]

namespace OpcodeRule

variable {K : Type} {rule : OpcodeRule K} {code : Code}

theorem fires_iff :
    rule.fires code = true ↔ ∀ mnemonic ∈ rule.opcodes, mnemonic ∈ code.opcodes := by
  simp only [fires, List.all_eq_true, List.contains_iff_mem]

-- A rule without opcodes would fire on no code as well.
theorem fires_eq_false_of_nil (h : code.opcodes = []) : rule.fires code = false := by
  obtain ⟨mnemonic, hmnemonic⟩ := List.exists_mem_of_ne_nil _ rule.opcodes_ne_nil
  rw [← Bool.not_eq_true, fires_iff]
  intro hfires
  have := hfires mnemonic hmnemonic
  rw [h] at this
  cases this

end OpcodeRule

namespace Config

variable (c : Config ℚ) {code code' : Code}

theorem firedOpcodeRules_sublist (h : ∀ mnemonic ∈ code.opcodes, mnemonic ∈ code'.opcodes) :
    (c.firedOpcodeRules code).Sublist (c.firedOpcodeRules code') := by
  refine List.monotone_filter_right _ fun rule hrule => ?_
  rw [OpcodeRule.fires_iff] at hrule ⊢
  exact fun mnemonic hmnemonic => h mnemonic (hrule mnemonic hmnemonic)

theorem firedOpcodeRules_congr
    (h : ∀ mnemonic, mnemonic ∈ code.opcodes ↔ mnemonic ∈ code'.opcodes) :
    c.firedOpcodeRules code = c.firedOpcodeRules code' := by
  refine List.filter_congr fun rule _ => Bool.eq_iff_iff.mpr ?_
  simp only [OpcodeRule.fires_iff, h]

theorem firedOpcodeRules_of_nil (h : code.opcodes = []) : c.firedOpcodeRules code = [] := by
  rw [firedOpcodeRules, List.filter_eq_nil_iff]
  intro rule _
  rw [OpcodeRule.fires_eq_false_of_nil h]
  exact Bool.false_ne_true

theorem find?_matched_scanCode (code : Code) :
    (c.scanCode code).evidence.find? "matched_patterns" =
      some (.ofTexts ((c.firedOpcodeRules code).map (·.id))) :=
  StringMap.find?_ofList _ _

theorem find?_diversity_scanCode (code : Code) :
    (c.scanCode code).evidence.find? "opcode_diversity" = some (.ofNat code.diversity) :=
  StringMap.find?_ofList _ _

theorem mem_techniques_scanCode {technique : String} :
    technique ∈ (c.scanCode code).techniques.toList ↔
      ∃ rule ∈ c.firedOpcodeRules code, rule.technique = technique := by
  have h : (c.scanCode code).techniques =
    StringSet.ofList ((c.firedOpcodeRules code).map (·.technique)) := rfl
  rw [h, StringSet.mem_toList_ofList, List.mem_map]

theorem patternsWithin_scanCode (h : ∀ mnemonic ∈ code.opcodes, mnemonic ∈ code'.opcodes) :
    (c.scanCode code).PatternsWithin (c.scanCode code') := by
  have hfired := c.firedOpcodeRules_sublist h
  refine ⟨⟨_, _, c.find?_matched_scanCode code, c.find?_matched_scanCode code', hfired.map _⟩, ?_⟩
  intro technique htechnique
  rw [mem_techniques_scanCode] at htechnique ⊢
  obtain ⟨rule, hrule, htechnique⟩ := htechnique
  exact ⟨rule, hfired.subset hrule, htechnique⟩

theorem confidence_scanCode_mono (hweights : ∀ rule ∈ c.opcodeRules, 0 ≤ rule.weight)
    (h : ∀ mnemonic ∈ code.opcodes, mnemonic ∈ code'.opcodes) :
    (c.scanCode code).confidence ≤ (c.scanCode code').confidence := by
  rw [confidence_scanCode, confidence_scanCode]
  refine max_le_max_left 0 (min_le_min_right 1 ?_)
  refine ((c.firedOpcodeRules_sublist h).map _).sum_le_sum fun weight hweight => ?_
  obtain ⟨rule, hrule, rfl⟩ := List.mem_map.mp hweight
  exact hweights rule (List.mem_of_mem_filter hrule)

theorem samePatterns_scanCode
    (h : ∀ mnemonic, mnemonic ∈ code.opcodes ↔ mnemonic ∈ code'.opcodes) :
    (c.scanCode code).SamePatterns (c.scanCode code') := by
  have hfired := c.firedOpcodeRules_congr h
  refine ⟨⟨_, c.find?_matched_scanCode code, ?_⟩, ?_, ?_,
    ⟨_, c.find?_diversity_scanCode code, ?_⟩⟩
  · rw [hfired, find?_matched_scanCode]
  · exact StringSet.ext_toList fun technique => by
      rw [mem_techniques_scanCode, mem_techniques_scanCode, hfired]
  · rw [confidence_scanCode, confidence_scanCode, hfired]
  · rw [Code.diversity_congr h, find?_diversity_scanCode]

theorem scanCode_of_nil (h : code.opcodes = []) :
    (c.scanCode code).evidence.find? "matched_patterns" = some (.ofTexts []) ∧
      (c.scanCode code).techniques.toList = [] ∧ (c.scanCode code).confidence = 0 := by
  have hfired := c.firedOpcodeRules_of_nil h
  refine ⟨?_, List.eq_nil_iff_forall_not_mem.mpr fun technique => ?_, ?_⟩
  · rw [find?_matched_scanCode, hfired, List.map_nil]
  · rw [mem_techniques_scanCode, hfired]
    simp
  · rw [confidence_scanCode, hfired, List.map_nil, List.sum_nil,
      min_eq_left zero_le_one, max_self]

/-- Where every opcode of one bytecode occurs in another, so do the rules that fire, and where
both have the same opcodes their findings are alike. Without any opcode nothing fires. -/
theorem scanBytecode_follows_opcodes {a b : String} (ha : Code.decode a = .ok code)
    (hb : Code.decode b = .ok code') :
    ∃ f f', c.scanBytecode a = .ok f ∧ c.scanBytecode b = .ok f' ∧
      ((∀ mnemonic ∈ code.opcodes, mnemonic ∈ code'.opcodes) → f.PatternsWithin f' ∧
        ((∀ rule ∈ c.opcodeRules, 0 ≤ rule.weight) → f.confidence ≤ f'.confidence)) ∧
      ((∀ mnemonic, mnemonic ∈ code.opcodes ↔ mnemonic ∈ code'.opcodes) → f.SamePatterns f') ∧
      ((∃ bytes, Hex.IsSpelling a bytes ∧ ∀ byte ∈ bytes, ¬Opcode.Assigned byte) →
        f.evidence.find? "matched_patterns" = some (.ofTexts []) ∧ f.techniques.toList = [] ∧
          f.confidence = 0) := by
  refine ⟨c.scanCode code, c.scanCode code', ?_, ?_, fun h => ?_, fun h => ?_, ?_⟩
  · rw [scanBytecode, ha]
    rfl
  · rw [scanBytecode, hb]
    rfl
  · exact ⟨c.patternsWithin_scanCode h, fun hweights => c.confidence_scanCode_mono hweights h⟩
  · exact c.samePatterns_scanCode h
  · rintro ⟨bytes, hspelling, hbytes⟩
    obtain rfl := Except.ok.inj (ha.symm.trans (Code.decode_of_isSpelling hspelling))
    exact c.scanCode_of_nil (Code.opcodes_ofBytes_eq_nil_iff.mpr hbytes)

-- The unassigned byte `0c` and the repetition make no difference.
theorem scanBytecode_padded_follows_opcodes : ∃ f f',
    (standard : Config ℚ).scanBytecode "0xff" = .ok f ∧
    (standard : Config ℚ).scanBytecode "0X0cFFff" = .ok f' ∧
    f.PatternsWithin f' ∧ f.confidence ≤ f'.confidence ∧ f.SamePatterns f' := by
  have ha : Code.decode "0xff" = .ok ⟨["SELFDESTRUCT"]⟩ := by decide +kernel
  have hb : Code.decode "0X0cFFff" = .ok ⟨["SELFDESTRUCT", "SELFDESTRUCT"]⟩ := by decide +kernel
  obtain ⟨f, f', hf, hf', hwithin, hsame, -⟩ :=
    (standard : Config ℚ).scanBytecode_follows_opcodes ha hb
  have hweights : ∀ rule ∈ (standard : Config ℚ).opcodeRules, 0 ≤ rule.weight := by decide +kernel
  exact ⟨f, f', hf, hf', (hwithin (by simp)).1, (hwithin (by simp)).2 hweights, hsame (by simp)⟩

end Config

end Honeypot
