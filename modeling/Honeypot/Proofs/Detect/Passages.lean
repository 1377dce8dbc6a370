import Honeypot.Config.Standard
import Honeypot.Detect.Source
import Honeypot.Proofs.Number.Exact
import Honeypot.Proofs.Pattern.Search
import Honeypot.Proofs.StringMap
import Honeypot.Proofs.Text.Case

/-!
The passages that two of the standard rules look for in a source text.

Both patterns have stretches of any length that run over what follows them. It does not matter how
a text is divided among these, as long as it can be divided at all.
-/

namespace Honeypot

open CharSet Pattern

/-- A part of a text that is a word but for the case of letters. -/
def Alike (word : String) (part : List Char) : Prop :=
  part.map foldChar = word.toList.map foldChar

/-- A modifier that compares the sender with an owner, part by part. -/
def ownerOnlyShape : List (List Char → Prop) := [
  Alike "modifier",
  fun gap => gap ≠ [] ∧ ∀ c ∈ gap, isBlank c = true,
  fun name => name ≠ [] ∧ ∀ c ∈ name, isWordChar c = true,
  fun gap => ∀ c ∈ gap, isBlank c = true,
  fun group => group = [] ∨ ∃ inside, group = '(' :: inside ++ [')'] ∧ ')' ∉ inside,
  fun gap => ∀ c ∈ gap, isBlank c = true,
  fun mark => mark = ['{'],
  fun body => '}' ∉ body,
  Alike "require",
  fun gap => ∀ c ∈ gap, isBlank c = true,
  fun mark => mark = ['('],
  fun gap => ∀ c ∈ gap, isBlank c = true,
  Alike "msg.sender",
  fun gap => ∀ c ∈ gap, isBlank c = true,
  fun mark => mark = ['=', '='],
  fun gap => ∀ c ∈ gap, isBlank c = true,
  fun word => ∀ c ∈ word, isWordChar c = true,
  Alike "owner"]

def HasOwnerOnlyModifier (source : List Char) : Prop :=
  ∃ before passage after, source = before ++ passage ++ after ∧ Splits ownerOnlyShape passage

/-- A requirement on a balance. Between its parenthesis and the next semicolon there is a balance,
and a closing parenthesis after it. -/
def RequiresBalance (source : List Char) : Prop :=
  ∃ before gap rest, source = before ++ "require".toList ++ gap ++ '(' :: rest ∧
    (∀ c ∈ gap, isBlank c = true) ∧
    ∃ front back, rest.takeWhile (· ≠ ';') = front ++ ".balance".toList ++ back ∧
      back.head?.any isWordChar = false ∧ ')' ∈ back

namespace Pattern

def run (s : CharSet) : List Pattern := [.star (.set s) true]

def runWithout (mark : Char) : List Pattern :=
  run (.complement (.ignoringCase (unions [char mark])))

def caseless (word : String) : List Pattern := letters (ignoringCase ∘ char) word.toList

def group : Pattern :=
  .optional (sequence [caseless "(", runWithout ')', caseless ")"].flatten) true

variable {s : CharSet} {greedy : Bool} {d : Char}

theorem asks_run : Asks (run s) fun part => ∀ c ∈ part, s.contains c = true :=
  fun _ _ _ => matches_star_set_iff

theorem asks_repeated : Asks [.repeated (.set s) greedy] fun part =>
    part ≠ [] ∧ ∀ c ∈ part, s.contains c = true :=
  fun _ _ _ => matches_repeated_set_iff

theorem asks_letters_char (word : List Char) : Asks (letters .char word) (· = word) := by
  intro before part after
  rw [matches_letters_iff, ← List.forall₂_eq_eq_eq]
  simp only [contains, beq_iff_eq]

theorem asks_caseless (word : String) : Asks (caseless word) (Alike word) := by
  intro before part after
  simp only [caseless, matches_letters_iff, Function.comp_apply, contains_ignoringCase_char_iff]
  rw [Alike, ← List.forall₂_eq_eq_eq, List.forall₂_map_left_iff, List.forall₂_map_right_iff]

theorem asks_marks {marks : String} (h : marks.toList.Forall IsMark) :
    Asks (caseless marks) (· = marks.toList) := by
  have hmarks := List.forall_iff_forall_mem.mp h
  intro before part after
  rw [asks_caseless marks before part after, Alike, (map_foldChar_eq_iff hmarks).mpr rfl]
  exact map_foldChar_eq_iff hmarks

theorem asks_run_complement (h : ∀ c, s.contains c = true ↔ c = d) :
    Asks (run (complement s)) (d ∉ ·) := by
  have hother (c : Char) : (complement s).contains c = true ↔ c ≠ d := by
    rw [contains, Bool.not_eq_true', ← Bool.not_eq_true, h]
  intro before part after
  rw [asks_run before part after]
  simp only [hother]
  exact ⟨fun h hmem => h d hmem rfl, fun h c hc heq => h (heq ▸ hc)⟩

theorem asks_runWithout (hd : IsMark d) : Asks (runWithout d) (d ∉ ·) :=
  asks_run_complement fun _ => contains_ignoringCase_unions_iff hd

theorem asks_runUpTo : Asks (run (complement (unions [char d]))) (d ∉ ·) :=
  asks_run_complement fun _ => contains_unions_iff

theorem asks_group : Asks [group] fun part =>
    part = [] ∨ ∃ inside, part = '(' :: inside ++ [')'] ∧ ')' ∉ inside := by
  have hparts : Asks [caseless "(", runWithout ')', caseless ")"].flatten
      (Splits [(· = ['(']), (')' ∉ ·), (· = [')'])]) :=
    asks_flatten (.cons (asks_marks (by decide)) (.cons (asks_runWithout (by decide))
      (.cons (asks_marks (by decide)) .nil)))
  intro before part after
  rw [sequence, group, matches_optional_iff, hparts before part after]
  simp [Splits]

def ownerOnly : List (List Pattern) := [
  caseless "modifier", [.repeated (.set .blank) true], [.repeated (.set .word) true], run .blank,
  [group], run .blank, caseless "\x7b", runWithout '}', caseless "require", run .blank,
  caseless "(", run .blank, caseless "msg.sender", run .blank, caseless "==", run .blank,
  run .word, caseless "owner"]

def balanceOpening : List (List Pattern) := [
  letters .char "require".toList, run .blank, letters .char ['('],
  run (.complement (unions [.char ';'])), letters .char ".balance".toList]

def balanceClosing : List (List Pattern) :=
  [run (.complement (unions [.char ';'])), letters .char [')']]

theorem asks_ownerOnly : Asks ownerOnly.flatten (Splits ownerOnlyShape) := by
  have hopening : Asks (caseless "\x7b") (· = ['{']) := asks_marks (by decide)
  have hparenthesis : Asks (caseless "(") (· = ['(']) := asks_marks (by decide)
  have hequals : Asks (caseless "==") (· = ['=', '=']) := asks_marks (by decide)
  have hbody : Asks (runWithout '}') ('}' ∉ ·) := asks_runWithout (by decide)
  refine asks_flatten ?_
  exact .cons (asks_caseless _) <| .cons asks_repeated <| .cons asks_repeated <| .cons asks_run <|
    .cons asks_group <| .cons asks_run <| .cons hopening <| .cons hbody <|
    .cons (asks_caseless _) <| .cons asks_run <| .cons hparenthesis <| .cons asks_run <|
    .cons (asks_caseless _) <| .cons asks_run <| .cons hequals <| .cons asks_run <|
    .cons asks_run <| .cons (asks_caseless _) .nil

theorem asks_balanceOpening : Asks balanceOpening.flatten (Splits [
    (· = "require".toList), fun gap => ∀ c ∈ gap, isBlank c = true, (· = ['(']),
    (';' ∉ ·), (· = ".balance".toList)]) :=
  asks_flatten <| .cons (asks_letters_char _) <| .cons asks_run <| .cons (asks_letters_char _) <|
    .cons asks_runUpTo <| .cons (asks_letters_char _) .nil

theorem asks_balanceClosing :
    Asks balanceClosing.flatten (Splits [(';' ∉ ·), (· = [')'])]) :=
  asks_flatten <| .cons asks_runUpTo <| .cons (asks_letters_char _) .nil

theorem fits_boundary_iff {before after : List Char} {c : Char} (h : isWordChar c = true) :
    Look.boundary.Fits (before ++ [c]) after ↔ after.head?.any isWordChar = false := by
  rw [Look.Fits, List.getLast?_concat, Option.any_some, h, ne_comm, ne_eq, Bool.not_eq_true]

end Pattern

namespace SourceRule

variable {K : Type} [Scalar K]

theorem pattern_ownerOnlyModifier :
    (ownerOnlyModifier : SourceRule K).pattern = sequence ownerOnly.flatten := by
  -- How a pattern is read does not depend on the type of the weights.
  change (ownerOnlyModifier : SourceRule ℚ).pattern = _
  decide +kernel

theorem pattern_balanceGatedRequire : (balanceGatedRequire : SourceRule K).pattern =
    sequence (balanceOpening.flatten ++ .look .boundary :: balanceClosing.flatten) := by
  change (balanceGatedRequire : SourceRule ℚ).pattern = _
  decide +kernel

theorem matchesIn_ownerOnlyModifier_iff {source : List Char} :
    (ownerOnlyModifier : SourceRule K).pattern.MatchesIn source ↔
      HasOwnerOnlyModifier source := by
  rw [pattern_ownerOnlyModifier]
  exact exists_congr fun before => exists_congr fun passage => exists_congr fun after =>
    and_congr_right fun _ => asks_ownerOnly before passage after

/-- What is in the stretch up to a stop is in the text before any stop. -/
theorem exists_takeWhile_eq_iff {rest word : List Char} {stop close : Char}
    (hword : stop ∉ word) (hclose : stop ≠ close) :
    (∃ front back, rest.takeWhile (· ≠ stop) = front ++ word ++ back ∧
      back.head?.any isWordChar = false ∧ close ∈ back) ↔
    ∃ front back after, rest = front ++ word ++ back ++ [close] ++ after ∧
      stop ∉ front ∧ stop ∉ back ∧ (back ++ [close] ++ after).head?.any isWordChar = false := by
  have hhead (back after after' : List Char) :
      (back ++ close :: after).head? = (back ++ [close] ++ after').head? := by simp
  constructor
  · rintro ⟨front, back, hstretch, hback, hclosed⟩
    obtain ⟨back, after, rfl⟩ := List.append_of_mem hclosed
    have hstops : stop ∉ rest.takeWhile (· ≠ stop) := fun hstop => by
      simpa using List.all_eq_true.mp List.all_takeWhile _ hstop
    rw [hstretch] at hstops
    simp only [List.mem_append, List.mem_cons, not_or] at hstops
    refine ⟨front, back, after ++ rest.dropWhile (· ≠ stop), ?_, hstops.1.1, hstops.2.1, ?_⟩
    · calc rest = rest.takeWhile (· ≠ stop) ++ rest.dropWhile (· ≠ stop) :=
            List.takeWhile_append_dropWhile.symm
        _ = _ := by rw [hstretch]; simp
    · rw [← hhead, hback]
  · rintro ⟨front, back, after, rfl, hfront, hback, hword'⟩
    have hstretch : ∀ c ∈ front ++ word ++ back ++ [close], decide (c ≠ stop) = true := by
      rintro c hc
      rw [decide_eq_true_eq]
      rintro rfl
      simp only [List.mem_append, List.mem_singleton] at hc
      tauto
    refine ⟨front, back ++ close :: after.takeWhile (· ≠ stop), ?_, ?_, by simp⟩
    · rw [List.takeWhile_append_of_pos hstretch]
      simp
    · rw [hhead _ _ after, hword']

theorem matchesIn_balanceGatedRequire_iff {source : List Char} :
    (balanceGatedRequire : SourceRule K).pattern.MatchesIn source ↔ RequiresBalance source := by
  have hboundary (before after : List Char) :
      Look.boundary.Fits (before ++ ".balance".toList) after ↔
        after.head?.any isWordChar = false := by
    have hlast : ".balance".toList = ".balanc".toList ++ ['e'] := by decide
    rw [hlast, ← List.append_assoc, fits_boundary_iff (by decide)]
  simp only [RequiresBalance,
    exists_takeWhile_eq_iff (by decide : ';' ∉ ".balance".toList) (by decide : ';' ≠ ')')]
  simp only [pattern_balanceGatedRequire, MatchesIn, matches_sequence_append_iff,
    matches_look_sequence_iff, asks_balanceOpening _ _ _, asks_balanceClosing _ _ _, Splits]
  constructor
  · rintro ⟨before, _, after, rfl, _, _, rfl,
      ⟨_, _, rfl, rfl, gap, _, rfl, hgap, _, _, rfl, rfl, front, _, rfl, hfront, _, _, rfl, rfl,
        rfl⟩, hfits, back, _, rfl, hback, _, _, rfl, rfl, rfl⟩
    refine ⟨before, gap, front ++ ".balance".toList ++ back ++ [')'] ++ after, by simp, hgap,
      front, back, after, rfl, hfront, hback, ?_⟩
    rw [← hboundary (before ++ "require".toList ++ gap ++ ['('] ++ front)]
    simpa using hfits
  · rintro ⟨before, gap, _, rfl, hgap, front, back, after, rfl, hfront, hback, hhead⟩
    rw [← hboundary (before ++ "require".toList ++ gap ++ ['('] ++ front)] at hhead
    refine ⟨before, _, after, ?_, _, _, rfl, ⟨_, _, rfl, rfl, gap, _, rfl, hgap, _, _, rfl, rfl,
      front, _, rfl, hfront, _, _, rfl, rfl, rfl⟩, ?_, back, _, rfl, hback, _, _, rfl, rfl, rfl⟩
    · simp
    · simpa using hhead

end SourceRule

namespace Config

variable {K : Type} {source : String}

theorem mem_map_firedSourceRules_iff {c : Config K} {f : SourceRule K → String} {x : String} :
    x ∈ (c.firedSourceRules source).map (fun entry => f entry.1) ↔
      ∃ rule ∈ c.sourceRules, rule.pattern.MatchesIn source.toList ∧ f rule = x := by
  simp only [← occurrences_ne_nil_iff]
  rw [firedSourceRules, List.filter_map, List.map_map, List.mem_map]
  simp [and_assoc]

variable [Scalar K] {c : Config K}

theorem mem_keys_scanSource_iff {id : String} : id ∈ (c.scanSource source).evidence.keys ↔
    ∃ rule ∈ c.sourceRules, rule.pattern.MatchesIn source.toList ∧ rule.id = id := by
  have hevidence : (c.scanSource source).evidence = StringMap.ofList
      ((c.firedSourceRules source).map fun entry => (entry.1.id, passagesValue entry.2)) := rfl
  rw [hevidence, StringMap.mem_keys_ofList_iff, List.map_map]
  exact mem_map_firedSourceRules_iff (f := SourceRule.id)

theorem mem_techniques_scanSource_iff {technique : String} :
    technique ∈ (c.scanSource source).techniques.toList ↔
      ∃ rule ∈ c.sourceRules, rule.pattern.MatchesIn source.toList ∧
        rule.technique = technique := by
  have htechniques : (c.scanSource source).techniques = StringSet.ofList
      ((c.firedSourceRules source).map (·.1.technique)) := rfl
  rw [htechniques, StringSet.mem_toList_ofList]
  exact mem_map_firedSourceRules_iff

/-- By the standard rules a source is suspected of a modifier for the owner, or of a requirement
on a balance, exactly where it contains such a passage. -/
theorem scanSource_standard_iff (source : String) :
    ("owner_only_modifier" ∈ ((standard : Config K).scanSource source).evidence.keys ↔
      HasOwnerOnlyModifier source.toList) ∧
    ("Owner Only Modifier" ∈ ((standard : Config K).scanSource source).techniques.toList ↔
      HasOwnerOnlyModifier source.toList) ∧
    ("balance_gated_require" ∈ ((standard : Config K).scanSource source).evidence.keys ↔
      RequiresBalance source.toList) ∧
    ("Balance Disorder" ∈ ((standard : Config K).scanSource source).techniques.toList ↔
      RequiresBalance source.toList) := by
  have hrules : (standard : Config K).sourceRules = [.ownerOnlyModifier, .selfDestructCall,
    .timestampDependence, .balanceGatedRequire] := rfl
  rw [← SourceRule.matchesIn_ownerOnlyModifier_iff (K := K),
    ← SourceRule.matchesIn_balanceGatedRequire_iff (K := K)]
  simp only [mem_keys_scanSource_iff, mem_techniques_scanSource_iff, hrules,
    List.exists_mem_cons_iff]
  simp [SourceRule.ownerOnlyModifier, SourceRule.selfDestructCall, SourceRule.timestampDependence,
    SourceRule.balanceGatedRequire, SourceRule.known]

end Config

end Honeypot
