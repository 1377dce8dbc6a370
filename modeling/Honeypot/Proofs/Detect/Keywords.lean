import Honeypot.Proofs.Detect.Quotes
import Mathlib.Data.Set.Card

/-!
How often two of the standard rules find their keywords in a source text.

Each keyword is counted at every place where it starts a word. A search goes on only at the end of
what it found, but it passes over nothing: within a passage that was found no other one can start,
since each of its later characters continues a word or is none with which a keyword starts.
-/

namespace Honeypot

open Honeypot.Json CharSet Pattern

/-- What a rule for keywords looks for: passages of a shape that start a word, ahead of a rest of
the text that meets a condition. -/
structure Keyword where
  shape : List Char → Prop
  ends : List Char → Prop

namespace Keyword

/-- A call that destroys a contract, up to its parenthesis. -/
def destruction : Keyword where
  shape := Splits [fun word => word = "selfdestruct".toList ∨ word = "suicide".toList,
    fun gap => ∀ c ∈ gap, isBlank c = true, (· = ['('])]
  ends _ := True

/-- The time of a block, as a whole word. -/
def clock : Keyword where
  shape word := word = "block.timestamp".toList ∨ word = "now".toList
  ends after := after.head?.any isWordChar = false

/-- A passage stands at a place of a text, at the start of the text or after no word character. -/
def At (k : Keyword) (source : List Char) (place : ℕ) (passage : List Char) : Prop :=
  ∃ before after, source = before ++ passage ++ after ∧ before.length = place ∧
    before.getLast?.any isWordChar = false ∧ k.shape passage ∧ k.ends after

/-- The number of places in a text at which a keyword stands. -/
noncomputable def count (k : Keyword) (source : List Char) : ℕ :=
  {place | ∃ passage, k.At source place passage}.ncard

/-- The passages of a keyword in a text, each with its place, in the order of the places. -/
structure Lists (k : Keyword) (source : List Char) (passages : List (ℕ × List Char)) : Prop where
  mem_iff : ∀ place passage, (place, passage) ∈ passages ↔ k.At source place passage
  inOrder : passages.Pairwise fun a b => a.1 < b.1

variable {k : Keyword} {source passage : List Char} {place : ℕ} {passages : List (ℕ × List Char)}

theorem At.drop_take_eq (h : k.At source place passage) :
    (source.take (place + passage.length)).drop place = passage := by
  obtain ⟨before, after, rfl, rfl, -⟩ := h
  rw [← List.length_append, List.take_left, List.drop_left]

theorem Lists.count_eq (h : k.Lists source passages) : k.count source = passages.length := by
  have hplaces : {place | ∃ passage, k.At source place passage} =
      ↑(passages.map Prod.fst).toFinset := by
    ext place
    simp [← h.mem_iff]
  have hnodup : (passages.map Prod.fst).Nodup :=
    List.pairwise_map.mpr (h.inOrder.imp fun hlt => hlt.ne)
  rw [count, hplaces, Set.ncard_coe_finset, List.toFinset_card_of_nodup hnodup, List.length_map]

/-- The characters with which a keyword starts tell its passages apart: further on in a passage
they come only where they continue a word, and no passage is the front of another one. -/
structure StartsWith (k : Keyword) (initials : List Char) : Prop where
  initial : ∀ passage, k.shape passage → ∃ c ∈ initials, passage.head? = some c
  inside : ∀ front c back, k.shape (front ++ c :: back) → front ≠ [] → c ∈ initials →
    front.getLast?.any isWordChar = true
  unique : ∀ passage passage' after after', k.shape passage → k.shape passage' →
    passage ++ after = passage' ++ after' → passage = passage'

theorem StartsWith.getLast?_any {initials front back passage' after after' : List Char}
    (h : k.StartsWith initials) (hshape : k.shape (front ++ back)) (hshape' : k.shape passage')
    (hfront : front ≠ []) (hback : back ≠ []) (htext : back ++ after = passage' ++ after') :
    front.getLast?.any isWordChar = true := by
  obtain ⟨c, hinitial, hhead⟩ := h.initial passage' hshape'
  obtain ⟨tail, rfl⟩ := List.head?_eq_some_iff.mp hhead
  cases back with
  | nil => exact absurd rfl hback
  | cons _ back =>
      obtain rfl := (List.cons.inj htext).1
      exact h.inside _ _ _ hshape hfront hinitial

/-- What stands before a character that no rest of a text has lies within the first part. -/
theorem getLast?_any_of_notMem {word rest front back : List Char} {c : Char}
    (h : front ++ c :: back = word ++ rest) (hfront : front ≠ [])
    (hword : ∀ d ∈ word, isWordChar d = true) (hrest : c ∉ rest) :
    front.getLast?.any isWordChar = true := by
  rcases List.append_eq_append_iff.mp h with ⟨middle, rfl, -⟩ | ⟨middle, -, rfl⟩
  · rw [List.getLast?_eq_some_getLast hfront, Option.any_some]
    exact hword _ (List.mem_append_left _ (List.getLast_mem hfront))
  · simp at hrest

theorem startsWith_destruction : destruction.StartsWith ['s'] where
  initial passage := by
    rintro ⟨_, _, rfl, rfl | rfl, -⟩
    · exact ⟨'s', List.mem_singleton_self _, rfl⟩
    · exact ⟨'s', List.mem_singleton_self _, rfl⟩
  inside front c back := by
    rintro ⟨word, _, htext, hword, gap, _, rfl, hgap, _, _, rfl, rfl, rfl⟩ hfront hc
    obtain rfl := List.mem_singleton.mp hc
    refine getLast?_any_of_notMem htext hfront ?_ ?_
    · rcases hword with rfl | rfl
      · exact List.all_eq_true.mp (by decide)
      · exact List.all_eq_true.mp (by decide)
    · have hblank : isBlank 's' = false := by decide +kernel
      have hmem : 's' ∉ gap := fun hmem => by simp [hgap _ hmem] at hblank
      simpa using hmem
  unique passage passage' after after' := by
    rintro ⟨word, _, rfl, hword, gap, _, rfl, hgap, _, _, rfl, rfl, rfl⟩
      ⟨word', _, rfl, hword', gap', _, rfl, hgap', _, _, rfl, rfl, rfl⟩ h
    have hstretch {gap after : List Char} (hgap : ∀ c ∈ gap, isBlank c = true) :
        (gap ++ '(' :: after).takeWhile isBlank = gap := by
      rw [List.takeWhile_append_of_pos hgap, List.takeWhile_cons_of_neg (by decide +kernel),
        List.append_nil]
    obtain rfl : word = word' := by
      rcases hword with rfl | rfl <;> rcases hword' with rfl | rfl
      · rfl
      · simp at h
      · simp at h
      · rfl
    simp only [List.append_assoc, List.append_cancel_left_eq, List.cons_append,
      List.nil_append] at h
    rw [← hstretch hgap, h, hstretch hgap']

theorem startsWith_clock : clock.StartsWith ['b', 'n'] where
  initial passage := by
    rintro (rfl | rfl)
    · exact ⟨'b', by simp, rfl⟩
    · exact ⟨'n', by simp, rfl⟩
  inside front c back hshape hfront hc := by
    have htail : c ∈ (front ++ c :: back).tail := by
      rw [List.tail_append_of_ne_nil hfront]
      simp
    have hnone : ["block.timestamp".toList, "now".toList].Forall fun word =>
        'b' ∉ word.tail ∧ 'n' ∉ word.tail := by
      decide
    have hword := List.forall_iff_forall_mem.mp hnone _ (List.mem_pair.mpr hshape)
    rcases List.mem_pair.mp hc with rfl | rfl
    · exact absurd htail hword.1
    · exact absurd htail hword.2
  unique passage passage' after after' := by
    rintro (rfl | rfl) (rfl | rfl) h
    · rfl
    · simp at h
    · simp at h
    · rfl

end Keyword

theorem exists_of_overlap {before before' part part' after after' : List Char}
    (htext : before ++ part ++ after = before' ++ part' ++ after')
    (hle : before.length ≤ before'.length) (hlt : before'.length < before.length + part.length) :
    ∃ front back, before' = before ++ front ∧ part = front ++ back ∧ back ≠ [] ∧
      back ++ after = part' ++ after' := by
  simp only [List.append_assoc] at htext
  obtain ⟨front, rfl⟩ : before <+: before' :=
    List.prefix_of_prefix_length_le (List.prefix_append _ _) ⟨_, htext.symm⟩ hle
  rw [List.length_append] at hlt
  rw [List.append_assoc, List.append_cancel_left_eq] at htext
  obtain ⟨back, rfl⟩ : front <+: part :=
    List.prefix_of_prefix_length_le ⟨_, htext.symm⟩ (List.prefix_append _ _) (by omega)
  rw [List.append_assoc, List.append_cancel_left_eq] at htext
  refine ⟨front, back, rfl, rfl, ?_, htext⟩
  rintro rfl
  rw [List.append_nil] at hlt
  omega

namespace Pattern

variable {p : Pattern} {k : Keyword} {text : List Char} {initials : List Char}

def Finds (p : Pattern) (k : Keyword) : Prop :=
  ∀ before taken after, p.Matches before taken after ↔
    before.getLast?.any isWordChar = false ∧ k.shape taken ∧ k.ends after

theorem Finds.matchesAt_iff (h : p.Finds k) {start stop : ℕ} : p.MatchesAt text start stop ↔
    ∃ passage, k.At text start passage ∧ stop = start + passage.length := by
  constructor
  · rintro ⟨before, taken, after, rfl, hmatches, rfl, rfl⟩
    obtain ⟨hbefore, hshape, hends⟩ := (h _ _ _).mp hmatches
    exact ⟨taken, ⟨before, after, rfl, rfl, hbefore, hshape, hends⟩, List.length_append⟩
  · rintro ⟨passage, ⟨before, after, rfl, rfl, hbefore, hshape, hends⟩, rfl⟩
    exact ⟨before, passage, after, rfl, (h _ _ _).mpr ⟨hbefore, hshape, hends⟩, rfl,
      List.length_append⟩

theorem Finds.lieApart (h : p.Finds k) (hstarts : k.StartsWith initials) (text : List Char) :
    p.LieApart text where
  nonempty {start stop} hmatch := by
    obtain ⟨passage, ⟨_, _, _, _, _, hshape, _⟩, rfl⟩ := h.matchesAt_iff.mp hmatch
    obtain ⟨c, -, hhead⟩ := hstarts.initial passage hshape
    cases passage with
    | nil => cases hhead
    | cons => simp
  eq_of_overlap {start stop start' stop'} hmatch hmatch' hle hlt := by
    obtain ⟨passage, ⟨before, after, rfl, rfl, -, hshape, -⟩, rfl⟩ := h.matchesAt_iff.mp hmatch
    obtain ⟨passage', ⟨before', after', htext, rfl, hbefore', hshape', -⟩, rfl⟩ :=
      h.matchesAt_iff.mp hmatch'
    obtain ⟨front, back, rfl, rfl, hback, hrest⟩ := exists_of_overlap htext hle hlt
    by_cases hfront : front = []
    · subst hfront
      obtain rfl := hstarts.unique _ _ _ _ hshape hshape' hrest
      simp
    · -- The later passage would start within the earlier one, but not at the start of a word.
      have hword := hstarts.getLast?_any hshape hshape' hfront hback hrest
      rw [List.getLast?_append_of_ne_nil _ hfront, hword] at hbefore'
      cases hbefore'

/-- The successive matches are the passages of the keyword, and each is quoted as it stands. -/
theorem Finds.exists_lists (h : p.Finds k) (hstarts : k.StartsWith initials) (source : String) :
    ∃ passages, k.Lists source.toList passages ∧
      p.occurrences source = passages.map fun entry => String.ofList entry.2 := by
  have hsuccessive := p.successive_spans source.toList
  have hapart := h.lieApart hstarts source.toList
  refine ⟨(p.spans source.toList.toArray).map fun span =>
    (span.1, (source.toList.take span.2).drop span.1), ⟨fun place passage => ?_, ?_⟩, ?_⟩
  · rw [List.mem_map]
    constructor
    · rintro ⟨⟨start, stop⟩, hspan, hentry⟩
      obtain ⟨rfl, rfl⟩ := Prod.mk.inj hentry
      obtain ⟨passage, hat, rfl⟩ := h.matchesAt_iff.mp ((hsuccessive.mem_iff hapart).mp hspan)
      rwa [hat.drop_take_eq]
    · intro hat
      have hspan := (hsuccessive.mem_iff hapart).mpr (h.matchesAt_iff.mpr ⟨passage, hat, rfl⟩)
      exact ⟨_, hspan, Prod.ext rfl hat.drop_take_eq⟩
  · exact List.pairwise_map.mpr (hsuccessive.apart.imp fun happart => happart.1)
  · rw [p.occurrences_eq, List.map_map]
    rfl

theorem asks_either {ps qs : List Pattern} {shape shape' : List Char → Prop} (hp : Asks ps shape)
    (hq : Asks qs shape') :
    Asks [either (sequence ps) (sequence qs)] fun part => shape part ∨ shape' part := by
  intro before part after
  rw [sequence, matches_either_iff, hp before part after, hq before part after]

theorem fits_boundary_before_iff {before taken after : List Char}
    (h : taken.head?.any isWordChar = true) :
    Look.boundary.Fits before (taken ++ after) ↔ before.getLast?.any isWordChar = false := by
  cases taken with
  | nil => cases h
  | cons c rest =>
      rw [List.head?_cons, Option.any_some] at h
      rw [Look.Fits, List.cons_append, List.head?_cons, Option.any_some, h, ne_eq,
        Bool.not_eq_true]

def destructionCall : List (List Pattern) := [
  [either (sequence (letters .char "selfdestruct".toList))
    (sequence (letters .char "suicide".toList))],
  run .blank, letters .char ['(']]

theorem asks_destructionCall : Asks destructionCall.flatten Keyword.destruction.shape :=
  asks_flatten <| .cons (asks_either (asks_letters_char _) (asks_letters_char _)) <|
    .cons asks_run <| .cons (asks_letters_char _) .nil

def wholeWord (word : String) : Pattern :=
  sequence (.look .boundary :: (letters .char word.toList ++ [.look .boundary]))

theorem matches_wholeWord_iff {word : String} {before taken after : List Char}
    (hfirst : word.toList.head?.any isWordChar = true)
    (hlast : ∃ front c, word.toList = front ++ [c] ∧ isWordChar c = true) :
    (wholeWord word).Matches before taken after ↔ before.getLast?.any isWordChar = false ∧
      taken = word.toList ∧ after.head?.any isWordChar = false := by
  obtain ⟨front, c, hword, hc⟩ := hlast
  have hend : Look.boundary.Fits (before ++ word.toList) after ↔
      after.head?.any isWordChar = false := by
    rw [hword, ← List.append_assoc, fits_boundary_iff hc]
  simp only [wholeWord, matches_look_sequence_iff, matches_sequence_append_iff,
    asks_letters_char _ _ _, sequence, matches_look_iff]
  constructor
  · rintro ⟨hfits, _, _, rfl, rfl, rfl, hafter⟩
    rw [List.append_nil, fits_boundary_before_iff hfirst] at hfits
    exact ⟨hfits, List.append_nil _, hend.mp hafter⟩
  · rintro ⟨hbefore, rfl, hafter⟩
    exact ⟨(fits_boundary_before_iff hfirst).mpr hbefore, _, [],
      (List.append_nil _).symm, rfl, rfl, hend.mpr hafter⟩

end Pattern

namespace SourceRule

variable {K : Type} [Scalar K]

theorem pattern_selfDestructCall : (selfDestructCall : SourceRule K).pattern =
    sequence (.look .boundary :: destructionCall.flatten) := by
  change (selfDestructCall : SourceRule ℚ).pattern = _
  decide +kernel

theorem pattern_timestampDependence : (timestampDependence : SourceRule K).pattern =
    .either (wholeWord "block.timestamp") (wholeWord "now") := by
  change (timestampDependence : SourceRule ℚ).pattern = _
  decide +kernel

theorem finds_selfDestructCall :
    (selfDestructCall : SourceRule K).pattern.Finds .destruction := by
  intro before taken after
  rw [pattern_selfDestructCall, matches_look_sequence_iff,
    asks_destructionCall before taken after]
  have hboundary (hshape : Keyword.destruction.shape taken) :
      Look.boundary.Fits before (taken ++ after) ↔ before.getLast?.any isWordChar = false := by
    obtain ⟨c, hc, hhead⟩ := Keyword.startsWith_destruction.initial taken hshape
    obtain rfl := List.mem_singleton.mp hc
    exact fits_boundary_before_iff (by rw [hhead]; decide)
  constructor
  · rintro ⟨hfits, hshape⟩
    exact ⟨(hboundary hshape).mp hfits, hshape, trivial⟩
  · rintro ⟨hbefore, hshape, -⟩
    exact ⟨(hboundary hshape).mpr hbefore, hshape⟩

theorem finds_timestampDependence :
    (timestampDependence : SourceRule K).pattern.Finds .clock := by
  have htimestamp : ∃ front c, "block.timestamp".toList = front ++ [c] ∧ isWordChar c = true :=
    ⟨"block.timestam".toList, 'p', by decide, by decide⟩
  have hnow : ∃ front c, "now".toList = front ++ [c] ∧ isWordChar c = true :=
    ⟨"no".toList, 'w', by decide, by decide⟩
  intro before taken after
  rw [pattern_timestampDependence, matches_either_iff,
    matches_wholeWord_iff (by decide) htimestamp,
    matches_wholeWord_iff (by decide) hnow, ← and_or_left, ← or_and_right]
  rfl

end SourceRule

/-- A finding on a source counts the places of a keyword under the name of a rule, and quotes the
first passages. -/
structure Finding.CountsKeyword {K : Type} (f : Finding K) (k : Keyword) (source : List Char)
    (id technique : String) (passages : List (ℕ × List Char)) : Prop where
  lists : k.Lists source passages
  mem_techniques_iff : technique ∈ f.techniques.toList ↔ 0 < k.count source
  mem_keys_iff : id ∈ f.evidence.keys ↔ 0 < k.count source
  evidence : 0 < k.count source → f.evidence.find? id = some (.object [
    ("count", .ofNat (k.count source)),
    ("snippets", .ofTexts ((passages.take (min 3 (k.count source))).map
      fun entry => String.ofList entry.2))])

namespace Config

variable {K : Type}

theorem exists_mem_named_iff {rules : List (SourceRule K)} {rule : SourceRule K}
    {name : SourceRule K → String} {p : SourceRule K → Prop} (hnames : (rules.map name).Nodup)
    (hrule : rule ∈ rules) :
    (∃ other ∈ rules, p other ∧ name other = name rule) ↔ p rule := by
  constructor
  · rintro ⟨other, hother, hp, hname⟩
    rwa [← List.inj_on_of_nodup_map hnames hother hrule hname]
  · intro hp
    exact ⟨rule, hrule, hp, rfl⟩

variable [Scalar K]

theorem exists_countsKeyword {c : Config K} {rule : SourceRule K} {k : Keyword}
    {initials : List Char} (hids : (c.sourceRules.map (·.id)).Nodup)
    (htechniques : (c.sourceRules.map (·.technique)).Nodup) (hrule : rule ∈ c.sourceRules)
    (hfinds : rule.pattern.Finds k) (hstarts : k.StartsWith initials) (source : String) :
    ∃ passages, (c.scanSource source).CountsKeyword k source.toList rule.id rule.technique
      passages := by
  obtain ⟨passages, hlists, hoccurrences⟩ := hfinds.exists_lists hstarts source
  have hlength : (rule.pattern.occurrences source).length = k.count source.toList := by
    rw [hoccurrences, List.length_map, hlists.count_eq]
  have hmatches : rule.pattern.MatchesIn source.toList ↔ 0 < k.count source.toList := by
    rw [← occurrences_ne_nil_iff, ← hlength, List.length_pos_iff]
  refine ⟨passages, hlists, ?_, ?_, fun hpos => ?_⟩
  · rw [mem_techniques_scanSource_iff, exists_mem_named_iff htechniques hrule, hmatches]
  · rw [mem_keys_scanSource_iff, exists_mem_named_iff hids hrule, hmatches]
  · have hfound : rule.pattern.occurrences source ≠ [] :=
      (rule.pattern.occurrences_ne_nil_iff source).mpr (hmatches.mpr hpos)
    obtain ⟨before, after, hrules⟩ := List.append_of_mem hrule
    rw [hrules, List.map_append, List.map_cons] at hids
    have hlast : ∀ later ∈ after, later.id = rule.id → later.pattern.occurrences source = [] := by
      intro later hlater hid
      have hafter := (List.nodup_cons.mp (List.nodup_append.mp hids).2.1).1
      exact absurd (List.mem_map.mpr ⟨later, hlater, hid⟩) hafter
    rw [find?_evidence_scanSource hrules hfound hlast, passagesValue_eq, hlength, hoccurrences,
      List.map_take]

/-- By the standard rules a call that destroys a contract, and a time of a block, are counted at
every place where one stands. -/
theorem scanSource_standard_counts_keywords (source : String) :
    (∃ passages, ((standard : Config K).scanSource source).CountsKeyword .destruction
      source.toList "selfdestruct_call" "Hidden Self Destruct" passages) ∧
    ∃ passages, ((standard : Config K).scanSource source).CountsKeyword .clock source.toList
      "timestamp_dependence" "Timestamp Dependence" passages := by
  have hids : ((standard : Config K).sourceRules.map (·.id)).Nodup := by
    change ["owner_only_modifier", "selfdestruct_call", "timestamp_dependence",
      "balance_gated_require"].Nodup
    decide
  have htechniques : ((standard : Config K).sourceRules.map (·.technique)).Nodup := by
    change ["Owner Only Modifier", "Hidden Self Destruct", "Timestamp Dependence",
      "Balance Disorder"].Nodup
    decide
  have hdestruction : SourceRule.selfDestructCall ∈ (standard : Config K).sourceRules :=
    .tail _ (.head _)
  have hclock : SourceRule.timestampDependence ∈ (standard : Config K).sourceRules :=
    .tail _ (.tail _ (.head _))
  exact ⟨exists_countsKeyword hids htechniques hdestruction SourceRule.finds_selfDestructCall
      Keyword.startsWith_destruction source,
    exists_countsKeyword hids htechniques hclock SourceRule.finds_timestampDependence
      Keyword.startsWith_clock source⟩

end Config

end Honeypot
