import Honeypot.Proofs.Detect.Hits
import Honeypot.Proofs.Text.Sigma

namespace Honeypot

open Honeypot.Json

variable {K : Type}

/-- A finding on an interface reports the technique of a rule, and tells of an entry that meets
it. -/
structure Finding.RecordsHit (f : Finding K) (e : AbiEntry) (rule : NameRule K) : Prop where
  technique_mem : rule.technique ∈ f.techniques.toList
  matched : ∃ values, f.evidence.find? "matched_functions" = some (.array values) ∧
    hitValue (e, rule) ∈ values

namespace Config

variable [Scalar K] {c : Config K} {abi : List AbiEntry} {e : AbiEntry} {rule : NameRule K}

theorem recordsHit_scanAbi_iff (he : e ∈ abi) (hcandidate : e.isCandidate = true)
    (hrule : rule ∈ c.nameRules) : (c.scanAbi abi).RecordsHit e rule ↔ rule.hits e = true := by
  constructor
  · rintro ⟨-, values, hvalues, hvalue⟩
    rw [find?_matched_scanAbi] at hvalues
    cases hvalues
    obtain ⟨⟨e', rule'⟩, hhit, hsame⟩ := List.mem_map.mp hvalue
    have hhits := (NameRule.hits_iff.mp ((mem_nameHits_iff c abi).mp hhit).2.2).2
    obtain ⟨hfragment, hname⟩ : rule'.fragment = rule.fragment ∧ e'.name = e.name := by
      simp only [hitValue, Value.object.injEq, List.cons.injEq, Prod.mk.injEq,
        Value.text.injEq] at hsame
      exact ⟨hsame.1.2, hsame.2.1.2⟩
    rwa [NameRule.hits, hfragment, hname] at hhits
  · intro hhits
    have hhit : (e, rule) ∈ c.nameHits abi :=
      (mem_nameHits_iff c abi).mpr ⟨he, hrule, NameRule.hits_iff.mpr ⟨hcandidate, hhits⟩⟩
    refine ⟨?_, _, c.find?_matched_scanAbi abi, List.mem_map_of_mem hhit⟩
    rw [mem_techniques_scanAbi_iff, mem_keys_strongest]
    exact ⟨_, hhit, rfl⟩

/-- An entry is recorded wherever its name spells the fragment of a rule and the sigmas of the
fragment keep their forms. The fragments that are missed in no name are those that settle their
sigmas. -/
theorem scanAbi_records_spelled (c : Config K) (fragment : String) (weight : K)
    (technique : String) (hrule : .make fragment weight technique ∈ c.nameRules) :
    (∀ abi, ∀ e ∈ abi, e.isCandidate = true → ∀ before after,
      e.name.toList = before ++ fragment.toList ++ after →
      KeepsSigmas before fragment.toList after →
      (c.scanAbi abi).RecordsHit e (.make fragment weight technique)) ∧
    (SettlesSigmas fragment.toList ↔ ∀ abi, ∀ e ∈ abi, e.isCandidate = true →
      fragment.toList <:+: e.name.toList →
      (c.scanAbi abi).RecordsHit e (.make fragment weight technique)) := by
  have hhits_iff (e : AbiEntry) : (NameRule.make fragment weight technique).hits e = true ↔
      (lowercase fragment).toList <:+: (lowercase e.name).toList := occursIn_iff
  have hrecords {abi : List AbiEntry} {e : AbiEntry} (he : e ∈ abi)
      (hcandidate : e.isCandidate = true) :
      (c.scanAbi abi).RecordsHit e (.make fragment weight technique) ↔
        (lowercase fragment).toList <:+: (lowercase e.name).toList := by
    rw [recordsHit_scanAbi_iff he hcandidate hrule, hhits_iff]
  refine ⟨fun abi e he hcandidate before after hname hkeeps => ?_, ?_⟩
  · exact (hrecords he hcandidate).mpr (hkeeps.isInfix_lowercase hname)
  · rw [settlesSigmas_iff]
    constructor
    · intro h abi e he hcandidate hname
      exact (hrecords he hcandidate).mpr (h e.name hname)
    · intro h name hname
      have he : AbiEntry.function name .payable ∈ [AbiEntry.function name .payable] :=
        List.mem_singleton_self _
      exact (hrecords he rfl).mp (h _ _ he rfl hname)

def sigmaRules : Config ℚ :=
  { standard with
    nameRules := [.make "aΣ" (1 / 2) "Last Sigma", .make "aΣb" (1 / 2) "Inner Sigma"] }

theorem scanAbi_records_inner_sigma :
    NameRule.make "aΣb" (1 / 2) "Inner Sigma" ∈ sigmaRules.nameRules ∧
    (sigmaRules.scanAbi [.function "xaΣby" .payable]).RecordsHit (.function "xaΣby" .payable)
      (.make "aΣb" (1 / 2) "Inner Sigma") := by
  have hrule : NameRule.make "aΣb" (1 / 2) "Inner Sigma" ∈ sigmaRules.nameRules :=
    .tail _ (.head _)
  have hkeeps : KeepsSigmas ['x'] "aΣb".toList ['y'] :=
    lowerWithin_eq_alone_iff.mp (by decide +kernel)
  exact ⟨hrule, (sigmaRules.scanAbi_records_spelled "aΣb" (1 / 2) "Inner Sigma" hrule).1 _ _
    (List.mem_singleton_self _) rfl ['x'] ['y'] (by decide) hkeeps⟩

/-- A fragment that ends with a sigma after a letter has it in the final form, but a name that
goes on with a letter does not. -/
theorem scanAbi_misses_last_sigma :
    NameRule.make "aΣ" (1 / 2) "Last Sigma" ∈ sigmaRules.nameRules ∧
    (AbiEntry.function "aΣb" .payable).isCandidate = true ∧
    "aΣ".toList <:+: (AbiEntry.function "aΣb" .payable).name.toList ∧
    ¬(sigmaRules.scanAbi [.function "aΣb" .payable]).RecordsHit (.function "aΣb" .payable)
      (.make "aΣ" (1 / 2) "Last Sigma") := by
  have hrule : NameRule.make "aΣ" (1 / 2) "Last Sigma" ∈ sigmaRules.nameRules := .head _
  refine ⟨hrule, rfl, ⟨[], ['b'], by decide⟩, ?_⟩
  rw [recordsHit_scanAbi_iff (List.mem_singleton_self _) rfl hrule]
  decide +kernel

end Config

end Honeypot
