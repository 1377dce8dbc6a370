import Honeypot.Proofs.Detect.Passages
import Honeypot.Proofs.Detect.Range
import Honeypot.Proofs.Pattern.Successive

namespace Honeypot

open Honeypot.Json

/-- A finding on a source tells of all matches of some rules in it, and of no others. Of the rules
with one name the last one that matches is told of. -/
structure Finding.TellsMatches (f : Finding ℚ) (rules : List (SourceRule ℚ)) (source : String) :
    Prop where
  mem_techniques_iff : ∀ technique, technique ∈ f.techniques.toList ↔
    ∃ rule ∈ rules, rule.pattern.occurrences source ≠ [] ∧ rule.technique = technique
  confidence_eq : f.confidence = min 1
    ((rules.filter fun rule => rule.pattern.occurrences source ≠ []).map (·.weight)).sum
  mem_keys_iff : ∀ id, id ∈ f.evidence.keys ↔
    ∃ rule ∈ rules, rule.pattern.occurrences source ≠ [] ∧ rule.id = id
  evidence : ∀ before rule after, rules = before ++ rule :: after →
    rule.pattern.occurrences source ≠ [] →
    (∀ later ∈ after, later.id = rule.id → later.pattern.occurrences source = []) →
    f.evidence.find? rule.id = some (.object [
      ("count", .ofNat (rule.pattern.occurrences source).length),
      ("snippets", .ofTexts ((rule.pattern.occurrences source).take
        (min 3 (rule.pattern.occurrences source).length)))])

theorem passagesValue_eq {K : Type} (passages : List String) :
    (passagesValue passages : Value K) = .object [
      ("count", .ofNat passages.length),
      ("snippets", .ofTexts (passages.take (min 3 passages.length)))] := by
  have hlength : (passages.take maxSnippets).length + (passages.drop maxSnippets).length =
      passages.length := by
    rw [← List.length_append, List.take_append_drop]
  have htake : passages.take maxSnippets = passages.take (min 3 passages.length) := by
    rw [List.take_eq_take_iff, maxSnippets]
    omega
  simp only [passagesValue, List.splitAt_eq, hlength]
  rw [htake]

namespace Config

section

variable {K : Type} (c : Config K) (source : String)

theorem firedSourceRules_eq : c.firedSourceRules source =
    (c.sourceRules.filter fun rule => rule.pattern.occurrences source ≠ []).map
      fun rule => (rule, rule.pattern.occurrences source) := by
  rw [firedSourceRules, List.filter_map]
  congr 1
  refine List.filter_congr fun rule _ => ?_
  rw [Function.comp_apply, Bool.eq_iff_iff]
  simp

variable [Scalar K]

theorem evidence_scanSource : (c.scanSource source).evidence = StringMap.ofList
    ((c.sourceRules.filter fun rule => rule.pattern.occurrences source ≠ []).map
      fun rule => (rule.id, passagesValue (rule.pattern.occurrences source))) := by
  have h : (c.scanSource source).evidence = StringMap.ofList
      ((c.firedSourceRules source).map fun entry => (entry.1.id, passagesValue entry.2)) := rfl
  rw [h, firedSourceRules_eq, List.map_map]
  rfl

variable {c source}

/-- The last rule with a name that matches leaves its matches under this name. -/
theorem find?_evidence_scanSource {before after : List (SourceRule K)} {rule : SourceRule K}
    (hrules : c.sourceRules = before ++ rule :: after)
    (hmatches : rule.pattern.occurrences source ≠ [])
    (hlast : ∀ later ∈ after, later.id = rule.id → later.pattern.occurrences source = []) :
    (c.scanSource source).evidence.find? rule.id =
      some (passagesValue (rule.pattern.occurrences source)) := by
  have hfilter : (rule :: after).filter (fun rule => rule.pattern.occurrences source ≠ []) =
      rule :: after.filter fun rule => rule.pattern.occurrences source ≠ [] :=
    List.filter_cons_of_pos (decide_eq_true hmatches)
  rw [evidence_scanSource, hrules, List.filter_append, hfilter, List.map_append, List.map_cons]
  refine StringMap.find?_ofList_append_cons _ ?_ _
  intro entry hentry hid
  obtain ⟨later, hlater, rfl⟩ := List.mem_map.mp hentry
  obtain ⟨hmem, hmatch⟩ := List.mem_filter.mp hlater
  exact of_decide_eq_true hmatch (hlast later hmem hid)

end

variable (c : Config ℚ) (source : String)

theorem tellsMatches_scanSource : (c.scanSource source).TellsMatches c.sourceRules source where
  mem_techniques_iff technique := by
    simp only [mem_techniques_scanSource_iff, Pattern.occurrences_ne_nil_iff]
  confidence_eq := by
    rw [confidence_scanSource, firedSourceRules_eq, List.map_map, min_comm]
    rfl
  mem_keys_iff id := by
    simp only [mem_keys_scanSource_iff, Pattern.occurrences_ne_nil_iff]
  evidence before rule after hrules hmatches hlast := by
    rw [find?_evidence_scanSource hrules hmatches hlast, passagesValue_eq]

/-- A finding on a source tells of all matches of the rules. These are the texts of successive
matches of their patterns, each of which is the first and the preferred one from the end of the
one before it. -/
theorem scanSource_tells_matches :
    (c.scanSource source).TellsMatches c.sourceRules source ∧
    ∀ rule ∈ c.sourceRules, ∃ spans, rule.pattern.Successive source.toList none 0 spans ∧
      rule.pattern.occurrences source = spans.map fun (start, stop) =>
        String.ofList ((source.toList.take stop).drop start) :=
  ⟨c.tellsMatches_scanSource source, fun rule _ =>
    ⟨_, rule.pattern.successive_spans source.toList, rule.pattern.occurrences_eq source⟩⟩

-- In the patterns of the standard rules every iteration takes a character.
example : ∀ rule ∈ (standard : Config ℚ).sourceRules, rule.pattern.loopsTake = true := by
  decide +kernel

-- An empty match counts, unless it is at the end of the match before.
example : (SourceRule.known "id" "x*" 1 "technique" : SourceRule ℚ).pattern.occurrences "axxb" =
    ["", "xx", ""] := by
  decide +kernel

end Config

end Honeypot
