import Honeypot.Pattern.Basic
import Mathlib.Data.List.Forall2

namespace Honeypot

/-- What a condition asks of the characters before a place and of those after it. -/
def Look.Fits (before after : List Char) : Look → Prop
  | .textStart => before = []
  | .textEnd => after = []
  | .lineStart => before = [] ∨ before.getLast? = some '\n'
  | .lineEnd => after = [] ∨ after.head? = some '\n'
  | .boundary => before.getLast?.any isWordChar ≠ after.head?.any isWordChar
  | .noBoundary => before.getLast?.any isWordChar = after.head?.any isWordChar

namespace Pattern

/-- A pattern matches a stretch of a text between what is before it and what is after it. -/
inductive Matches : Pattern → (before taken after : List Char) → Prop
  | empty {before after} : Matches .empty before [] after
  | set {s c before after} (h : s.contains c = true) : Matches (.set s) before [c] after
  | look {l before after} (h : l.Fits before after) : Matches (.look l) before [] after
  | seq {p q before first second after} (hp : Matches p before first (second ++ after))
      (hq : Matches q (before ++ first) second after) :
      Matches (.seq p q) before (first ++ second) after
  | left {p q before taken after} (h : Matches p before taken after) :
      Matches (.either p q) before taken after
  | right {p q before taken after} (h : Matches q before taken after) :
      Matches (.either p q) before taken after
  | skip {p greedy before after} : Matches (.optional p greedy) before [] after
  | once {p greedy before taken after} (h : Matches p before taken after) :
      Matches (.optional p greedy) before taken after
  | stop {p greedy before after} : Matches (.star p greedy) before [] after
  | more {p greedy before first rest after} (hp : Matches p before first (rest ++ after))
      (h : Matches (.star p greedy) (before ++ first) rest after) :
      Matches (.star p greedy) before (first ++ rest) after
  | last {p greedy before taken after} (h : Matches p before taken after) :
      Matches (.repeated p greedy) before taken after
  | again {p greedy before first rest after} (hp : Matches p before first (rest ++ after))
      (h : Matches (.repeated p greedy) (before ++ first) rest after) :
      Matches (.repeated p greedy) before (first ++ rest) after

def MatchesIn (p : Pattern) (text : List Char) : Prop :=
  ∃ before taken after, text = before ++ taken ++ after ∧ p.Matches before taken after

variable {p q : Pattern} {s : CharSet} {l : Look} {greedy : Bool} {before taken after : List Char}

@[simp]
theorem matches_empty_iff : empty.Matches before taken after ↔ taken = [] := by
  constructor
  · intro h
    cases h with
    | empty => rfl
  · rintro rfl
    exact .empty

@[simp]
theorem matches_set_iff :
    (set s).Matches before taken after ↔ ∃ c, taken = [c] ∧ s.contains c = true := by
  constructor
  · intro h
    cases h with
    | set h => exact ⟨_, rfl, h⟩
  · rintro ⟨c, rfl, h⟩
    exact .set h

@[simp]
theorem matches_look_iff :
    (look l).Matches before taken after ↔ taken = [] ∧ l.Fits before after := by
  constructor
  · intro h
    cases h with
    | look h => exact ⟨rfl, h⟩
  · rintro ⟨rfl, h⟩
    exact .look h

theorem matches_seq_iff : (seq p q).Matches before taken after ↔
    ∃ first second, taken = first ++ second ∧ p.Matches before first (second ++ after) ∧
      q.Matches (before ++ first) second after := by
  constructor
  · intro h
    cases h with
    | seq hp hq => exact ⟨_, _, rfl, hp, hq⟩
  · rintro ⟨first, second, rfl, hp, hq⟩
    exact .seq hp hq

theorem matches_either_iff : (either p q).Matches before taken after ↔
    p.Matches before taken after ∨ q.Matches before taken after := by
  constructor
  · intro h
    cases h with
    | left h => exact .inl h
    | right h => exact .inr h
  · rintro (h | h)
    · exact .left h
    · exact .right h

theorem matches_optional_iff : (optional p greedy).Matches before taken after ↔
    taken = [] ∨ p.Matches before taken after := by
  constructor
  · intro h
    cases h with
    | skip => exact .inl rfl
    | once h => exact .inr h
  · rintro (rfl | h)
    · exact .skip
    · exact .once h

theorem matches_star_set_iff : (star (set s) greedy).Matches before taken after ↔
    ∀ c ∈ taken, s.contains c = true := by
  constructor
  · intro h
    generalize hp : star (set s) greedy = p at h
    induction h with
    | stop => simp
    | more hfirst _ _ ih =>
        cases hp
        obtain ⟨c, rfl, hc⟩ := matches_set_iff.mp hfirst
        exact List.forall_mem_cons.mpr ⟨hc, ih rfl⟩
    | _ => cases hp
  · intro h
    induction taken generalizing before with
    | nil => exact .stop
    | cons c rest ih =>
        obtain ⟨hc, hrest⟩ := List.forall_mem_cons.mp h
        have hfirst : (set s).Matches before [c] (rest ++ after) := .set hc
        exact hfirst.more (ih hrest)

theorem matches_repeated_set_iff : (repeated (set s) greedy).Matches before taken after ↔
    taken ≠ [] ∧ ∀ c ∈ taken, s.contains c = true := by
  constructor
  · intro h
    generalize hp : repeated (set s) greedy = p at h
    induction h with
    | last h =>
        cases hp
        obtain ⟨c, rfl, hc⟩ := matches_set_iff.mp h
        simpa using hc
    | again hfirst _ _ ih =>
        cases hp
        obtain ⟨c, rfl, hc⟩ := matches_set_iff.mp hfirst
        exact ⟨List.cons_ne_nil _ _, List.forall_mem_cons.mpr ⟨hc, (ih rfl).2⟩⟩
    | _ => cases hp
  · rintro ⟨hne, h⟩
    induction taken generalizing before with
    | nil => exact absurd rfl hne
    | cons c rest ih =>
        obtain ⟨hc, hrest⟩ := List.forall_mem_cons.mp h
        cases rest with
        | nil => exact .last (.set hc)
        | cons d rest =>
            have hfirst : (set s).Matches before [c] (d :: rest ++ after) := .set hc
            exact hfirst.again (ih (List.cons_ne_nil _ _) hrest)

theorem matches_sequence_cons_iff {p : Pattern} {ps : List Pattern} :
    (sequence (p :: ps)).Matches before taken after ↔
      ∃ first second, taken = first ++ second ∧ p.Matches before first (second ++ after) ∧
        (sequence ps).Matches (before ++ first) second after := by
  cases ps with
  | nil => simp [sequence]
  | cons => exact matches_seq_iff

theorem matches_look_sequence_iff {ps : List Pattern} :
    (sequence (look l :: ps)).Matches before taken after ↔
      l.Fits before (taken ++ after) ∧ (sequence ps).Matches before taken after := by
  simp only [matches_sequence_cons_iff, matches_look_iff]
  constructor
  · rintro ⟨_, second, rfl, ⟨rfl, h⟩, hps⟩
    exact ⟨h, by simpa using hps⟩
  · rintro ⟨h, hps⟩
    exact ⟨[], taken, rfl, ⟨rfl, h⟩, by simpa using hps⟩

theorem matches_sequence_append_iff {ps qs : List Pattern} :
    (sequence (ps ++ qs)).Matches before taken after ↔
      ∃ first second, taken = first ++ second ∧
        (sequence ps).Matches before first (second ++ after) ∧
        (sequence qs).Matches (before ++ first) second after := by
  induction ps generalizing before taken with
  | nil => simp [sequence]
  | cons p ps ih =>
      rw [List.cons_append]
      simp only [matches_sequence_cons_iff, ih]
      constructor
      · rintro ⟨first, _, rfl, hp, second, third, rfl, hps, hqs⟩
        exact ⟨first ++ second, third, by simp,
          ⟨first, second, rfl, by simpa using hp, by simpa using hps⟩, by simpa using hqs⟩
      · rintro ⟨_, third, rfl, ⟨first, second, rfl, hp, hps⟩, hqs⟩
        exact ⟨first, second ++ third, by simp, by simpa using hp, second, third, rfl, hps,
          by simpa using hqs⟩

def letters (setOf : Char → CharSet) (word : List Char) : List Pattern :=
  word.map fun c => .set (setOf c)

theorem matches_letters_iff {setOf : Char → CharSet} {word : List Char} :
    (sequence (letters setOf word)).Matches before taken after ↔
      List.Forall₂ (fun c d => (setOf d).contains c = true) taken word := by
  induction word generalizing before taken with
  | nil => simp [letters, sequence, List.forall₂_nil_right_iff]
  | cons d word ih =>
      rw [letters, List.map_cons, ← letters, matches_sequence_cons_iff]
      simp only [matches_set_iff, ih, List.forall₂_cons_right_iff]
      constructor
      · rintro ⟨_, rest, rfl, ⟨c, rfl, hc⟩, hrest⟩
        exact ⟨c, rest, hc, hrest, rfl⟩
      · rintro ⟨c, rest, hc, hrest, rfl⟩
        exact ⟨[c], rest, rfl, ⟨c, rfl, hc⟩, hrest⟩

/-- A text consists of parts of the given shapes, one after the other. -/
def Splits : List (List Char → Prop) → List Char → Prop
  | [], text => text = []
  | shape :: shapes, text =>
      ∃ part rest, text = part ++ rest ∧ shape part ∧ Splits shapes rest

/-- Some patterns in sequence match the texts of a shape, wherever these stand. -/
def Asks (ps : List Pattern) (shape : List Char → Prop) : Prop :=
  ∀ before taken after, (sequence ps).Matches before taken after ↔ shape taken

theorem asks_flatten {pss : List (List Pattern)} {shapes : List (List Char → Prop)}
    (h : List.Forall₂ Asks pss shapes) : Asks pss.flatten (Splits shapes) := by
  induction h with
  | nil => intro before taken after; simp [sequence, Splits]
  | cons hps _ ih =>
      intro before taken after
      simp only [List.flatten_cons, matches_sequence_append_iff, hps _ _ _, ih _ _ _, Splits]

end Pattern

end Honeypot
