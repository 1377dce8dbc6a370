import Honeypot.Config.Standard
import Honeypot.Proofs.Json.Record
import Honeypot.Proofs.Number.Clamp
import Honeypot.Proofs.Verdict.Outcomes

namespace Honeypot

open Honeypot.Json

section Fields

theorem readSet?_tree (s : StringSet) : readSet? (Value.tree (Value.ofSet s)) = some s := by
  rw [readSet?, Value.ofSet, Value.ofTexts, list?_tree fun _ => rfl, Option.map_some,
    StringSet.ofList_toList]

theorem readEvidence?_tree {levels : Nat} {evidence : StringMap (Value Float)}
    (h : ∀ entry ∈ evidence.entries, entry.2.Fits levels) :
    readEvidence? levels (Value.tree (Value.ofMap evidence)) = some evidence := by
  rw [Value.ofMap, Value.tree, readEvidence?]
  exact Value.ofMembers?_trees evidence.sorted fun entry hmem => Value.ofTree?_tree (h entry hmem)

theorem fits_of_readEvidence? {levels : Nat} {t : Tree} {evidence : StringMap (Value Float)}
    (h : readEvidence? levels t = some evidence) :
    ∀ entry ∈ evidence.entries, entry.2.Fits levels := by
  cases t with
  | object members =>
      exact Value.fits_of_ofMembers? (fun member _ _ => Value.fits_of_ofTree? member.2) h
  | _ => cases h

theorem fits_of_optional {levels : Nat} {given : Option Tree} {evidence : StringMap (Value Float)}
    (h : Json.optional .empty (readEvidence? levels) given = some evidence) :
    ∀ entry ∈ evidence.entries, entry.2.Fits levels := by
  cases given with
  | none =>
      obtain rfl := Option.some.inj h
      intro entry hmem
      cases hmem
  | some t => exact fits_of_readEvidence? h

end Fields

/-- A finding that can stand in a verdict: its confidence is finite, and its evidence nests at
most 123 arrays and objects, since it stands inside four objects of its own. -/
structure Finding.WellFormed (f : Finding Float) : Prop where
  confidence : f.confidence.isFinite = true
  evidence : ∀ entry ∈ f.evidence.entries, entry.2.Fits 123

namespace Verdict

/-- A verdict with finite confidences and well-formed findings, each under its own name. -/
structure WellFormed (v : Verdict Float) : Prop where
  confidence : v.confidence.isFinite = true
  findings : ∀ entry ∈ v.findings.entries, entry.2.name = entry.1 ∧ entry.2.WellFormed

theorem finding?_tree {f : Finding Float} (h : f.WellFormed) :
    finding? f.name (Value.tree (.object f.body)) = some f := by
  have hfields : (Value.tree (.object f.body)).fields? [["confidence"], ["techniques"],
      ["evidence"]] = some [some (Value.tree (.real f.confidence)),
        some (Value.tree (Value.ofSet f.techniques)),
        some (Value.tree (Value.ofMap f.evidence))] :=
    rfl
  have hconfidence := float?_realTree h.confidence
  have htechniques := readSet?_tree f.techniques
  have hevidence := readEvidence?_tree h.evidence
  rw [show 123 = Value.maxLevels - 4 from rfl] at hevidence
  simp only [finding?, hfields, required_some, optional_some, Option.bind_eq_bind,
    Option.bind_some, hconfidence, htechniques, hevidence]
  rfl

theorem findings?_tree {findings : StringMap (Finding Float)}
    (h : ∀ entry ∈ findings.entries, entry.2.name = entry.1 ∧ entry.2.WellFormed) :
    findings? (Value.tree (Value.ofMap (findings.mapValues fun _ f => .object f.body))) =
      some findings := by
  have hmembers : ((findings.mapValues fun _ f => Value.object f.body).entries.map fun member =>
      ((some member.1, member.2.tree) : Content × Tree)) = findings.entries.map fun entry =>
        (some entry.1, Value.tree (.object entry.2.body)) := by
    rw [StringMap.mapValues, List.map_map]
    rfl
  rw [Value.ofMap, Value.tree, Value.memberTrees_eq_map, hmembers, findings?,
    mapM_map_eq_some (k := id), List.map_id, Option.map_some, StringMap.ofList_entries]
  rintro ⟨name, f⟩ hmem
  obtain ⟨hname, hfinding⟩ := h (name, f) hmem
  obtain rfl : f.name = name := hname
  rw [namedFinding?, finding?_tree hfinding]
  rfl

theorem risk_ofTree?_name (r : Risk) : Risk.ofTree? (.text (some r.name)) = some r := by
  cases r <;> rfl

theorem ofTree?_tree {v : Verdict Float} (h : v.WellFormed) :
    ofTree? v.toValue.tree = some v := by
  have hfields : v.toValue.tree.fields? [["confidence"], ["risk_level"], ["techniques"],
      ["detectors"], ["errors"]] = some [some (Value.tree (.real v.confidence)),
        some (.text (some v.risk.name)), some (Value.tree (Value.ofSet v.techniques)),
        some (Value.tree (Value.ofMap (v.findings.mapValues fun _ f => .object f.body))),
        some (Value.tree (.array (v.omissions.map Omission.toValue)))] := rfl
  have hconfidence := float?_realTree h.confidence
  have hrisk := risk_ofTree?_name v.risk
  have htechniques := readSet?_tree v.techniques
  have hfindings := findings?_tree h.findings
  have hread (o : Omission) : Omission.ofTree? (Value.tree o.toValue) = some o := rfl
  have homissions := list?_tree hread v.omissions
  simp only [ofTree?, hfields, required_some, optional_some, Option.bind_eq_bind,
    Option.bind_some, hconfidence, hrisk, htechniques, hfindings, homissions]
  rfl

theorem ofText?_toText {v : Verdict Float} (h : v.WellFormed) : ofText? v.toText = some v := by
  rw [ofText?, toText, Value.ofText?_toText, Option.bind_some, ofTree?_tree h]

theorem wellFormed_of_finding? {name : String} {t : Tree} {f : Finding Float}
    (h : finding? name t = some f) : f.name = name ∧ f.WellFormed := by
  obtain ⟨fields, -, h⟩ := Option.bind_eq_some_iff.mp h
  split at h
  · obtain ⟨confidence, hconfidence, h⟩ := Option.bind_eq_some_iff.mp h
    obtain ⟨techniques, -, h⟩ := Option.bind_eq_some_iff.mp h
    obtain ⟨evidence, hevidence, h⟩ := Option.bind_eq_some_iff.mp h
    obtain rfl := Option.some.inj h
    exact ⟨rfl, isFinite_of_required hconfidence, fits_of_optional hevidence⟩
  · cases h

theorem wellFormed_of_findings? {t : Tree} {findings : StringMap (Finding Float)}
    (h : findings? t = some findings) :
    ∀ entry ∈ findings.entries, entry.2.name = entry.1 ∧ entry.2.WellFormed := by
  cases t with
  | object members =>
      obtain ⟨entries, hentries, rfl⟩ := Option.map_eq_some_iff.mp h
      intro entry hmem
      obtain ⟨⟨name, t⟩, -, hread⟩ :=
        exists_of_mem_mapM hentries (StringMap.mem_of_mem_ofList hmem)
      cases name with
      | none => cases hread
      | some name =>
          obtain ⟨f, hf, rfl⟩ := Option.map_eq_some_iff.mp hread
          exact wellFormed_of_finding? hf
  | _ => cases h

theorem wellFormed_of_ofTree? {t : Tree} {v : Verdict Float} (h : ofTree? t = some v) :
    v.WellFormed := by
  obtain ⟨fields, -, h⟩ := Option.bind_eq_some_iff.mp h
  split at h
  · rename_i findingsGiven _
    obtain ⟨confidence, hconfidence, h⟩ := Option.bind_eq_some_iff.mp h
    obtain ⟨risk, -, h⟩ := Option.bind_eq_some_iff.mp h
    obtain ⟨techniques, -, h⟩ := Option.bind_eq_some_iff.mp h
    obtain ⟨findings, hfindings, h⟩ := Option.bind_eq_some_iff.mp h
    obtain ⟨omissions, -, h⟩ := Option.bind_eq_some_iff.mp h
    obtain rfl := Option.some.inj h
    refine ⟨isFinite_of_required hconfidence, ?_⟩
    cases findingsGiven with
    | none =>
        obtain rfl := Option.some.inj hfindings
        intro entry hmem
        cases hmem
    | some t => exact wellFormed_of_findings? hfindings
  · cases h

theorem wellFormed_of_ofText? {text : String} {v : Verdict Float} (h : ofText? text = some v) :
    v.WellFormed := by
  obtain ⟨t, -, ht⟩ := Option.bind_eq_some_iff.mp h
  exact wellFormed_of_ofTree? ht

end Verdict

namespace Outcomes

/-- The evidence of what the detectors found nests at most 123 arrays and objects. -/
def EvidenceFits (outcomes : Outcomes Float) : Prop :=
  ∀ d f, outcomes d = some (.ran f) → ∀ entry ∈ f.evidence.entries, entry.2.Fits 123

theorem wellFormed_of_finding? {outcomes : Outcomes Float} (h : outcomes.EvidenceFits)
    {d : Detector} {f : Finding Float} (hf : outcomes.finding? d = some f) : f.WellFormed := by
  obtain ⟨g, hg, rfl⟩ := finding?_eq_some_iff.mp hf
  exact ⟨Scalar.isFinite_clamp g.confidence, h d g hg⟩

theorem wellFormed_of_mem_byName {outcomes : Outcomes Float} (h : outcomes.EvidenceFits) :
    ∀ entry ∈ outcomes.byName.entries, entry.2.name = entry.1 ∧ entry.2.WellFormed := by
  rintro ⟨name, f⟩ hmem
  obtain ⟨d, rfl, hf⟩ := find?_byName.mp (StringMap.find?_eq_some_iff_mem.mpr hmem)
  exact ⟨name_of_finding? hf, wellFormed_of_finding? h hf⟩

end Outcomes

theorem Config.wellFormed_aggregate (c : Config Float) {outcomes : Outcomes Float}
    (h : outcomes.EvidenceFits) : (c.aggregate outcomes).WellFormed := by
  refine ⟨?_, ?_⟩
  · by_cases hran : ∃ d, outcomes.Ran d
    · obtain ⟨d, hd⟩ := hran
      rw [aggregate_of_ran c hd]
      exact Scalar.isFinite_clamp _
    · rw [aggregate_of_forall_not_ran c (not_exists.mp hran)]
      show (0 : Float).isFinite = true
      decide
  · rw [findings_aggregate]
    exact Outcomes.wellFormed_of_mem_byName h

/-- A verdict is read back from its text if and only if it is well-formed. Whatever is read from a
text is well-formed, and so is whatever is drawn up from outcomes with evidence that fits. -/
theorem Verdict.survives_wire :
    (∀ v : Verdict Float, ofText? v.toText = some v ↔ v.WellFormed) ∧
    (∀ (text : String) (v : Verdict Float), ofText? text = some v →
      v.WellFormed ∧ ofText? v.toText = some v) ∧
    (∀ (c : Config Float) (outcomes : Outcomes Float), outcomes.EvidenceFits →
      (c.aggregate outcomes).WellFormed ∧
        ofText? (c.aggregate outcomes).toText = some (c.aggregate outcomes)) := by
  refine ⟨?_, ?_, ?_⟩
  · intro v
    exact ⟨wellFormed_of_ofText?, ofText?_toText⟩
  · intro text v h
    have hv := wellFormed_of_ofText? h
    exact ⟨hv, ofText?_toText hv⟩
  · intro c outcomes h
    have hv := c.wellFormed_aggregate h
    exact ⟨hv, ofText?_toText hv⟩

def Finding.varied : Finding Float :=
  { name := "ml"
    confidence := 0.5
    techniques := StringSet.ofList ["loop", "\"trap\""]
    evidence := StringMap.ofList [
      ("trace", .array [.null, .bool true, .int (-7), .real 0.1, .text "a\\b\n",
        .object [("", .array []), ("é", .int 0)]])] }

theorem Finding.wellFormed_varied : varied.WellFormed := by
  refine ⟨by decide, ?_⟩
  intro entry hmem
  obtain rfl := List.mem_singleton.mp (StringMap.mem_of_mem_ofList hmem)
  have hinner : (Value.object [("", .array []), ("é", .int 0)]).Fits 122 := by
    refine .object (by decide) ?_
    simp only [List.forall_mem_cons]
    exact ⟨.array (by simp), .int _ (by decide), by simp⟩
  refine .array ?_
  simp only [List.forall_mem_cons]
  exact ⟨.null _, .bool _ _, .int _ (by decide), .real _ (by decide), .text _ _, hinner, by simp⟩

def Verdict.varied : Verdict Float :=
  { confidence := 0.5
    risk := .medium
    techniques := .empty
    findings := StringMap.ofList [("ml", Finding.varied)]
    omissions := [⟨"symbolic", "timeout"⟩] }

theorem Verdict.varied_survives_wire :
    Verdict.varied.WellFormed ∧ ofText? Verdict.varied.toText = some Verdict.varied ∧
      (Config.standard.aggregate fun _ => some (.ran Finding.varied)).WellFormed := by
  have hfindings : ∀ entry ∈ Verdict.varied.findings.entries,
      entry.2.name = entry.1 ∧ entry.2.WellFormed := by
    intro entry hmem
    obtain rfl := List.mem_singleton.mp (StringMap.mem_of_mem_ofList hmem)
    exact ⟨rfl, Finding.wellFormed_varied⟩
  have hverdict : Verdict.varied.WellFormed := ⟨by decide, hfindings⟩
  have houtcomes : Outcomes.EvidenceFits fun _ => some (.ran Finding.varied) := by
    rintro d f ⟨⟩
    exact Finding.wellFormed_varied.evidence
  have htext := (Verdict.survives_wire.1 Verdict.varied).mpr hverdict
  exact ⟨(Verdict.survives_wire.2.1 _ _ htext).1, htext,
    (Verdict.survives_wire.2.2 Config.standard _ houtcomes).1⟩

end Honeypot
