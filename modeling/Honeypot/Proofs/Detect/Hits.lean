import Honeypot.Proofs.Detect.Range
import Honeypot.Proofs.Places
import Honeypot.Proofs.StringMap
import Mathlib.Algebra.BigOperators.Group.Finset.Basic
import Mathlib.Algebra.Order.BigOperators.Group.Finset
import Mathlib.Order.Bounds.Basic

namespace Honeypot

open Honeypot.Json

variable {K : Type}

/-- A function that takes payment and may write state has the fragment of a rule in its name. -/
structure NameRule.Hits (rule : NameRule K) (e : AbiEntry) : Prop where
  kind : e.kind = .function
  not_view : e.mutability ≠ .view
  not_pure : e.mutability ≠ .pure
  payment : e.payable = true ∨ e.mutability = .payable
  fragment : rule.fragment.toList <:+: (lowercase e.name).toList

theorem occursIn_iff {part text : List Char} : occursIn part text = true ↔ part <:+: text := by
  induction text with
  | nil => rw [occursIn, List.isEmpty_iff, List.infix_nil]
  | cons c rest ih =>
      rw [occursIn, Bool.or_eq_true, List.isPrefixOf_iff_prefix, ih, List.infix_cons_iff]

theorem NameRule.hits_iff {rule : NameRule K} {e : AbiEntry} :
    rule.Hits e ↔ e.isCandidate = true ∧ rule.hits e = true := by
  simp only [NameRule.hits, occursIn_iff, AbiEntry.isCandidate, AbiEntry.mutatesState,
    AbiEntry.takesPayment, Bool.and_eq_true, Bool.or_eq_true, decide_eq_true_eq]
  constructor
  · rintro ⟨hkind, hview, hpure, hpayment, hfragment⟩
    exact ⟨⟨⟨⟨hkind, hview⟩, hpure⟩, hpayment⟩, hfragment⟩
  · rintro ⟨⟨⟨⟨hkind, hview⟩, hpure⟩, hpayment⟩, hfragment⟩
    exact ⟨hkind, hview, hpure, hpayment, hfragment⟩

def hitWeights (rules : List (NameRule K)) (abi : List AbiEntry) (technique : String) : Set K :=
  {weight | ∃ rule ∈ rules, rule.technique = technique ∧ rule.weight = weight ∧
    ∃ e ∈ abi, rule.Hits e}

/-- The finding on an interface counts each technique that it hits once, with the greatest of its
weights there or zero. It tells of each hit once, by entry and then by rule. -/
structure Finding.CountsHits (f : Finding ℚ) (rules : List (NameRule ℚ)) (abi : List AbiEntry) :
    Prop where
  mem_techniques_iff : ∀ technique, technique ∈ f.techniques.toList ↔
    ∃ rule ∈ rules, rule.technique = technique ∧ ∃ e ∈ abi, rule.Hits e
  confidence_eq : ∃ strength : String → ℚ,
    (∀ technique ∈ f.techniques.toList, ∃ largest,
      IsGreatest (hitWeights rules abi technique) largest ∧ strength technique = max 0 largest) ∧
    f.confidence = min 1 (∑ technique ∈ f.techniques.toList.toFinset, strength technique)
  matched : ∃ places : List (Fin abi.length × Fin rules.length),
    places.Pairwise (Prod.Lex (· < ·) (· < ·)) ∧
    (∀ i j, (i, j) ∈ places ↔ rules[j].Hits abi[i]) ∧
    f.evidence.find? "matched_functions" =
      some (.array (places.map fun (i, j) => hitValue (abi[i], rules[j])))

namespace Config

theorem mem_nameHits_iff (c : Config K) (abi : List AbiEntry) {e : AbiEntry} {rule : NameRule K} :
    (e, rule) ∈ c.nameHits abi ↔ e ∈ abi ∧ rule ∈ c.nameRules ∧ rule.Hits e := by
  rw [NameRule.hits_iff]
  simp only [nameHits, List.mem_flatMap, List.mem_filter, List.mem_map, Prod.mk.injEq]
  constructor
  · rintro ⟨_, ⟨he, hcandidate⟩, _, ⟨hrule, hhits⟩, rfl, rfl⟩
    exact ⟨he, hrule, hcandidate, hhits⟩
  · rintro ⟨he, hrule, hcandidate, hhits⟩
    exact ⟨e, ⟨he, hcandidate⟩, rule, ⟨hrule, hhits⟩, rfl, rfl⟩

theorem strongest_append_singleton [Scalar K] (hits : List (AbiEntry × NameRule K))
    (hit : AbiEntry × NameRule K) :
    strongest (hits ++ [hit]) = (strongest hits).insert hit.2.technique
      (Scalar.max (((strongest hits).find? hit.2.technique).getD Scalar.zero) hit.2.weight) := by
  rw [strongest, List.foldl_append, List.foldl_cons, List.foldl_nil, strongest]

theorem mem_keys_strongest [Scalar K] {hits : List (AbiEntry × NameRule K)} {technique : String} :
    technique ∈ (strongest hits).keys ↔ ∃ hit ∈ hits, hit.2.technique = technique := by
  induction hits using List.reverseRecOn with
  | nil =>
      have hnone : technique ∉ (strongest ([] : List (AbiEntry × NameRule K))).keys :=
        List.not_mem_nil
      simp [hnone]
  | append_singleton hits hit ih =>
      rw [strongest_append_singleton, StringMap.mem_keys_insert_iff, ih]
      simp only [List.mem_append, List.mem_singleton, or_and_right, exists_or, exists_eq_left]
      rw [or_comm, eq_comm]

theorem mem_techniques_scanAbi_iff [Scalar K] (c : Config K) (abi : List AbiEntry)
    {technique : String} : technique ∈ (c.scanAbi abi).techniques.toList ↔
      technique ∈ (strongest (c.nameHits abi)).keys := by
  have h : (c.scanAbi abi).techniques = StringSet.ofList (strongest (c.nameHits abi)).keys := rfl
  rw [h, StringSet.mem_toList_ofList]

theorem find?_matched_scanAbi [Scalar K] (c : Config K) (abi : List AbiEntry) :
    (c.scanAbi abi).evidence.find? "matched_functions" =
      some (.array ((c.nameHits abi).map hitValue)) :=
  StringMap.find?_ofList _ _

def weightsOf (hits : List (AbiEntry × NameRule ℚ)) (technique : String) : Set ℚ :=
  {weight | ∃ hit ∈ hits, hit.2.technique = technique ∧ hit.2.weight = weight}

def strength (hits : List (AbiEntry × NameRule ℚ)) (technique : String) : ℚ :=
  ((strongest hits).find? technique).getD 0

section Strongest

variable {hits hits' : List (AbiEntry × NameRule ℚ)} {technique : String}

theorem weightsOf_append_singleton (hits : List (AbiEntry × NameRule ℚ))
    (hit : AbiEntry × NameRule ℚ) (technique : String) :
    weightsOf (hits ++ [hit]) technique =
      if technique = hit.2.technique then insert hit.2.weight (weightsOf hits technique)
      else weightsOf hits technique := by
  ext weight
  have hmem : weight ∈ weightsOf (hits ++ [hit]) technique ↔
      weight ∈ weightsOf hits technique ∨
        hit.2.technique = technique ∧ hit.2.weight = weight := by
    simp only [weightsOf, Set.mem_ofPred_eq, List.mem_append, List.mem_singleton, or_and_right,
      exists_or, exists_eq_left]
  rw [hmem]
  split
  · rename_i h
    rw [Set.mem_insert_iff, or_comm, and_iff_right h.symm, eq_comm]
  · rename_i h
    exact or_iff_left fun hsame => h hsame.1.symm

/-- Of the weights of a technique the map keeps the greatest, or zero where that is greater. -/
theorem find?_strongest (hits : List (AbiEntry × NameRule ℚ)) (technique : String) :
    weightsOf hits technique = ∅ ∧ (strongest hits).find? technique = none ∨
      ∃ largest, IsGreatest (weightsOf hits technique) largest ∧
        (strongest hits).find? technique = some (max 0 largest) := by
  -- A hit only touches the entry of its own technique, where it is compared with what was kept.
  induction hits using List.reverseRecOn with
  | nil => exact .inl ⟨by simp [weightsOf], rfl⟩
  | append_singleton hits hit ih =>
      rw [strongest_append_singleton, StringMap.find?_insert, weightsOf_append_singleton]
      split
      · rename_i htechnique
        right
        subst htechnique
        rcases ih with ⟨hnone, hfind⟩ | ⟨largest, hlargest, hfind⟩
        · refine ⟨hit.2.weight, ?_, ?_⟩
          · rw [hnone]
            simp
          · rw [hfind, Scalar.max_eq_max]
            rfl
        · refine ⟨max hit.2.weight largest, hlargest.insert _, ?_⟩
          rw [hfind, Option.getD_some, Scalar.max_eq_max, max_assoc, max_comm largest]
      · exact ih

theorem strength_nonneg (hits : List (AbiEntry × NameRule ℚ)) (technique : String) :
    0 ≤ strength hits technique := by
  rcases find?_strongest hits technique with ⟨-, hfind⟩ | ⟨largest, -, hfind⟩
  · rw [strength, hfind]
    rfl
  · rw [strength, hfind]
    exact le_max_left 0 largest

theorem strength_mono (h : weightsOf hits technique ⊆ weightsOf hits' technique) :
    strength hits technique ≤ strength hits' technique := by
  rcases find?_strongest hits technique with ⟨-, hfind⟩ | ⟨largest, hlargest, hfind⟩
  · rw [strength, hfind]
    exact strength_nonneg hits' technique
  · rcases find?_strongest hits' technique with ⟨hnone, -⟩ | ⟨largest', hlargest', hfind'⟩
    · exact absurd (hnone ▸ h hlargest.1) (Set.notMem_empty _)
    · rw [strength, strength, hfind, hfind']
      exact max_le_max_left 0 (hlargest'.2 (h hlargest.1))

theorem mem_keys_strongest_iff :
    technique ∈ (strongest hits).keys ↔ (weightsOf hits technique).Nonempty := by
  rw [mem_keys_strongest]
  constructor
  · rintro ⟨hit, hhit, htechnique⟩
    exact ⟨hit.2.weight, hit, hhit, htechnique, rfl⟩
  · rintro ⟨_, hit, hhit, htechnique, -⟩
    exact ⟨hit, hhit, htechnique⟩

theorem sum_values_strongest (hits : List (AbiEntry × NameRule ℚ)) :
    (strongest hits).values.sum =
      ∑ technique ∈ (strongest hits).keys.toFinset, strength hits technique := by
  have hvalues : (strongest hits).values = (strongest hits).keys.map (strength hits) := by
    have h := congrArg (List.map (Option.getD · 0)) (strongest hits).map_find?_keys
    rw [List.map_map, List.map_map] at h
    exact (List.map_id _).symm.trans h.symm
  rw [hvalues, List.sum_toFinset _ (strongest hits).nodup_keys]

end Strongest

variable (c : Config ℚ) (abi : List AbiEntry)

theorem weightsOf_nameHits (technique : String) :
    weightsOf (c.nameHits abi) technique = hitWeights c.nameRules abi technique := by
  ext weight
  simp only [weightsOf, hitWeights, Set.mem_ofPred_eq, Prod.exists, mem_nameHits_iff]
  constructor
  · rintro ⟨e, rule, ⟨he, hrule, hhits⟩, htechnique, hweight⟩
    exact ⟨rule, hrule, htechnique, hweight, e, he, hhits⟩
  · rintro ⟨rule, hrule, htechnique, hweight, e, he, hhits⟩
    exact ⟨e, rule, ⟨he, hrule, hhits⟩, htechnique, hweight⟩

theorem mem_techniques_scanAbi {technique : String} :
    technique ∈ (c.scanAbi abi).techniques.toList ↔
      (hitWeights c.nameRules abi technique).Nonempty := by
  rw [mem_techniques_scanAbi_iff, mem_keys_strongest_iff, weightsOf_nameHits]

theorem confidence_scanAbi_eq_sum : (c.scanAbi abi).confidence =
    min 1 (∑ technique ∈ (c.scanAbi abi).techniques.toList.toFinset,
      strength (c.nameHits abi) technique) := by
  have htechniques : (c.scanAbi abi).techniques.toList.toFinset =
      (strongest (c.nameHits abi)).keys.toFinset := by
    ext technique
    rw [List.mem_toFinset, List.mem_toFinset, mem_techniques_scanAbi, mem_keys_strongest_iff,
      weightsOf_nameHits]
  have hnonneg : 0 ≤ ∑ technique ∈ (strongest (c.nameHits abi)).keys.toFinset,
      strength (c.nameHits abi) technique :=
    Finset.sum_nonneg fun technique _ => strength_nonneg _ technique
  rw [confidence_scanAbi, sum_values_strongest, htechniques, min_comm,
    max_eq_right (le_min zero_le_one hnonneg)]

theorem matched_scanAbi : (c.scanAbi abi).evidence.find? "matched_functions" =
    some (.array ((pairPlaces abi c.nameRules fun e rule =>
      e.isCandidate && rule.hits e).map fun (i, j) => hitValue (abi[i], c.nameRules[j]))) := by
  rw [find?_matched_scanAbi, nameHits, filter_flatMap_filter, pairs_eq_map_pairPlaces,
    List.map_map]
  rfl

theorem countsHits_scanAbi : (c.scanAbi abi).CountsHits c.nameRules abi := by
  refine ⟨fun technique => ?_,
    ⟨strength (c.nameHits abi), ?_, c.confidence_scanAbi_eq_sum abi⟩, ?_⟩
  · rw [mem_techniques_scanAbi]
    constructor
    · rintro ⟨_, rule, hrule, htechnique, -, hhits⟩
      exact ⟨rule, hrule, htechnique, hhits⟩
    · rintro ⟨rule, hrule, htechnique, hhits⟩
      exact ⟨rule.weight, rule, hrule, htechnique, rfl, hhits⟩
  · intro technique htechnique
    rw [mem_techniques_scanAbi, ← weightsOf_nameHits] at htechnique
    rw [← weightsOf_nameHits]
    rcases find?_strongest (c.nameHits abi) technique with ⟨hnone, -⟩ | ⟨largest, hlargest, hfind⟩
    · exact absurd hnone htechnique.ne_empty
    · refine ⟨largest, hlargest, ?_⟩
      rw [strength, hfind]
      rfl
  · refine ⟨_, pairwise_pairPlaces, fun i j => ?_, c.matched_scanAbi abi⟩
    rw [mem_pairPlaces_iff, Bool.and_eq_true, ← NameRule.hits_iff]

variable {abi} {abi' : List AbiEntry}

theorem hitWeights_mono {rules : List (NameRule ℚ)} (h : abi ⊆ abi') (technique : String) :
    hitWeights rules abi technique ⊆ hitWeights rules abi' technique := by
  rintro weight ⟨rule, hrule, htechnique, hweight, e, he, hhits⟩
  exact ⟨rule, hrule, htechnique, hweight, e, h he, hhits⟩

theorem techniques_scanAbi_mono (h : abi ⊆ abi') :
    (c.scanAbi abi).techniques.toList ⊆ (c.scanAbi abi').techniques.toList := by
  intro technique htechnique
  rw [mem_techniques_scanAbi] at htechnique ⊢
  exact htechnique.mono (hitWeights_mono h technique)

theorem confidence_scanAbi_mono (h : abi ⊆ abi') :
    (c.scanAbi abi).confidence ≤ (c.scanAbi abi').confidence := by
  rw [confidence_scanAbi_eq_sum, confidence_scanAbi_eq_sum]
  refine min_le_min_left 1 ?_
  calc ∑ technique ∈ (c.scanAbi abi).techniques.toList.toFinset,
        strength (c.nameHits abi) technique
    _ ≤ ∑ technique ∈ (c.scanAbi abi).techniques.toList.toFinset,
        strength (c.nameHits abi') technique := by
      refine Finset.sum_le_sum fun technique _ => strength_mono ?_
      rw [weightsOf_nameHits, weightsOf_nameHits]
      exact hitWeights_mono h technique
    _ ≤ ∑ technique ∈ (c.scanAbi abi').techniques.toList.toFinset,
        strength (c.nameHits abi') technique :=
      Finset.sum_le_sum_of_subset_of_nonneg
        (fun _ hmem => List.mem_toFinset.mpr
          (c.techniques_scanAbi_mono h (List.mem_toFinset.mp hmem)))
        fun technique _ _ => strength_nonneg _ technique

/-- A finding on an interface counts the hits of its names. It does not change with the order of
the entries or with their repetition, and further entries take nothing from it. -/
theorem scanAbi_counts_hits (abi : List AbiEntry) :
    (c.scanAbi abi).CountsHits c.nameRules abi ∧
    (∀ abi', (∀ e, e ∈ abi' ↔ e ∈ abi) →
      (c.scanAbi abi').confidence = (c.scanAbi abi).confidence ∧
      (c.scanAbi abi').techniques = (c.scanAbi abi).techniques) ∧
    ∀ more, (c.scanAbi abi).confidence ≤ (c.scanAbi (abi ++ more)).confidence ∧
      (c.scanAbi abi).techniques.toList ⊆ (c.scanAbi (abi ++ more)).techniques.toList := by
  refine ⟨c.countsHits_scanAbi abi, fun abi' hsame => ?_, fun more => ?_⟩
  · have hto : abi' ⊆ abi := fun e he => (hsame e).mp he
    have hfrom : abi ⊆ abi' := fun e he => (hsame e).mpr he
    refine ⟨le_antisymm (c.confidence_scanAbi_mono hto) (c.confidence_scanAbi_mono hfrom),
      StringSet.ext_toList fun technique => ?_⟩
    exact ⟨fun h => c.techniques_scanAbi_mono hto h, fun h => c.techniques_scanAbi_mono hfrom h⟩
  · have h : abi ⊆ abi ++ more := List.subset_append_left abi more
    exact ⟨c.confidence_scanAbi_mono h, c.techniques_scanAbi_mono h⟩

def mintAndCollect : List AbiEntry :=
  [.function "safeMint" .payable, .function "Collect" .payable]

theorem scanAbi_mintAndCollect_repeated :
    ((standard : Config ℚ).scanAbi mintAndCollect).confidence = 7 / 10 ∧
    ((standard : Config ℚ).scanAbi (mintAndCollect.reverse ++ mintAndCollect)).confidence =
      ((standard : Config ℚ).scanAbi mintAndCollect).confidence :=
  ⟨by decide +kernel, (((standard : Config ℚ).scanAbi_counts_hits mintAndCollect).2.1
    (mintAndCollect.reverse ++ mintAndCollect) (by simp)).1⟩

end Config

end Honeypot
