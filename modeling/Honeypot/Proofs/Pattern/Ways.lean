import Honeypot.Proofs.Pattern.Matching

namespace Honeypot

instance (before after : List Char) : (l : Look) → Decidable (l.Fits before after)
  | .textStart => inferInstanceAs (Decidable (before = []))
  | .textEnd => inferInstanceAs (Decidable (after = []))
  | .lineStart => inferInstanceAs (Decidable (before = [] ∨ before.getLast? = some '\n'))
  | .lineEnd => inferInstanceAs (Decidable (after = [] ∨ after.head? = some '\n'))
  | .boundary =>
      inferInstanceAs (Decidable (before.getLast?.any isWordChar ≠ after.head?.any isWordChar))
  | .noBoundary =>
      inferInstanceAs (Decidable (before.getLast?.any isWordChar = after.head?.any isWordChar))

namespace Pattern

/-- What can be taken at a place, the preferred stretch first, for what is before the place and
after it. -/
abbrev Ways := List Char → List Char → List (List Char)

namespace Ways

def andThen (first second : Ways) : Ways := fun before after =>
  (first before after).flatMap fun taken =>
    (second (before ++ taken) (after.drop taken.length)).map (taken ++ ·)

/-- To go on is preferred to taking nothing where the choice is greedy. -/
def orNothing (ways : Ways) (greedy : Bool) : Ways := fun before after =>
  if greedy then ways before after ++ [[]] else [] :: ways before after

def upTo (ways : Ways) (greedy : Bool) : ℕ → Ways
  | 0 => fun _ _ => [[]]
  | n + 1 => (ways.andThen (ways.upTo greedy n)).orNothing greedy

end Ways

/-- The stretches that a pattern can take. Where each iteration takes a character, there are at
most as many of them as there are characters. -/
def ways : Pattern → Ways
  | empty => fun _ _ => [[]]
  | set s => fun _ after => if after.head?.any s.contains then [after.take 1] else []
  | look l => fun before after => if l.Fits before after then [[]] else []
  | seq p q => p.ways.andThen q.ways
  | either p q => fun before after => p.ways before after ++ q.ways before after
  | optional p greedy => p.ways.orNothing greedy
  | star p greedy => fun before after => p.ways.upTo greedy after.length before after
  | repeated p greedy => fun before after =>
      p.ways.andThen (p.ways.upTo greedy after.length) before after

/-- Holds for the patterns in which each iteration of a repetition takes a character at least. -/
def loopsTake : Pattern → Bool
  | empty => true
  | set _ => true
  | look _ => true
  | seq p q => p.loopsTake && q.loopsTake
  | either p q => p.loopsTake && q.loopsTake
  | optional p _ => p.loopsTake
  | star p _ => p.alwaysTakes && p.loopsTake
  | repeated p _ => p.alwaysTakes && p.loopsTake

/-- A greedy repetition prefers to go on, a lazy one to stop, and the first alternative comes
first even where it takes less. -/
example :
    (star (set (.char 'a')) true).ways [] "aab".toList = ["aa".toList, "a".toList, []] ∧
    (star (set (.char 'a')) false).ways [] "aab".toList = [[], "a".toList, "aa".toList] ∧
    (either empty (set (.char 'a'))).ways [] "aab".toList = [[], "a".toList] := by
  decide

namespace Ways

variable {first second ways : Ways} {greedy : Bool} {before after taken : List Char}

/-- What is taken stands at the front of what follows the place. -/
def Within (ways : Ways) : Prop := ∀ before after, ∀ taken ∈ ways before after, taken <+: after

def Takes (ways : Ways) : Prop := ∀ before after, [] ∉ ways before after

theorem mem_andThen : taken ∈ first.andThen second before after ↔
    ∃ front ∈ first before after, ∃ rest ∈ second (before ++ front) (after.drop front.length),
      front ++ rest = taken := by
  simp only [andThen, List.mem_flatMap, List.mem_map]

theorem mem_orNothing :
    taken ∈ ways.orNothing greedy before after ↔ taken = [] ∨ taken ∈ ways before after := by
  cases greedy with
  | true => simp [orNothing, or_comm]
  | false => simp [orNothing]

theorem Within.andThen (hfirst : first.Within) (hsecond : second.Within) :
    (first.andThen second).Within := by
  intro before after taken htaken
  obtain ⟨front, hfront, rest, hrest, rfl⟩ := mem_andThen.mp htaken
  obtain ⟨later, rfl⟩ := hfirst before after front hfront
  have hwithin := hsecond _ _ rest hrest
  rw [List.drop_left] at hwithin
  exact (List.prefix_append_right_inj front).mpr hwithin

theorem Within.orNothing (h : ways.Within) : (ways.orNothing greedy).Within := by
  intro before after taken htaken
  rcases mem_orNothing.mp htaken with rfl | htaken
  · exact List.nil_prefix
  · exact h before after taken htaken

theorem Within.upTo (h : ways.Within) (greedy : Bool) (n : ℕ) : (ways.upTo greedy n).Within := by
  induction n with
  | zero => simp [Within, Ways.upTo]
  | succ n ih => exact (h.andThen ih).orNothing

end Ways

theorem within_ways (p : Pattern) : p.ways.Within := by
  induction p with
  | empty => simp [Ways.Within, ways]
  | set s =>
      intro before after taken htaken
      obtain ⟨-, rfl⟩ : after.head?.any s.contains = true ∧ taken = after.take 1 := by
        simpa [ways, List.mem_ite_nil_right] using htaken
      exact List.take_prefix 1 after
  | look l =>
      intro before after taken htaken
      obtain ⟨-, rfl⟩ : l.Fits before after ∧ taken = [] := by
        simpa [ways, List.mem_ite_nil_right] using htaken
      exact List.nil_prefix
  | seq p q ihp ihq => exact ihp.andThen ihq
  | either p q ihp ihq =>
      intro before after taken htaken
      rcases List.mem_append.mp htaken with htaken | htaken
      · exact ihp before after taken htaken
      · exact ihq before after taken htaken
  | optional p greedy ih => exact ih.orNothing
  | star p greedy ih => exact fun before after => ih.upTo greedy after.length before after
  | repeated p greedy ih =>
      exact fun before after => (ih.andThen (ih.upTo greedy after.length)) before after

theorem takes_ways {p : Pattern} (h : p.alwaysTakes = true) : p.ways.Takes := by
  intro before after hnil
  induction p generalizing before after with
  | empty => cases h
  | set s =>
      obtain ⟨hany, rfl⟩ : after.head?.any s.contains = true ∧ after = [] := by
        simpa [ways] using hnil
      cases hany
  | look l => cases h
  | seq p q ihp ihq =>
      obtain ⟨front, hfront, rest, hrest, hempty⟩ := Ways.mem_andThen.mp hnil
      obtain ⟨rfl, rfl⟩ := List.append_eq_nil_iff.mp hempty
      rcases Bool.or_eq_true_iff.mp h with h | h
      · exact ihp h _ _ hfront
      · exact ihq h _ _ hrest
  | either p q ihp ihq =>
      obtain ⟨hp, hq⟩ := Bool.and_eq_true_iff.mp h
      rcases List.mem_append.mp hnil with hnil | hnil
      · exact ihp hp _ _ hnil
      · exact ihq hq _ _ hnil
  | optional p greedy ih => cases h
  | star p greedy ih => cases h
  | repeated p greedy ih =>
      obtain ⟨front, hfront, rest, -, hempty⟩ := Ways.mem_andThen.mp hnil
      obtain ⟨rfl, -⟩ := List.append_eq_nil_iff.mp hempty
      exact ih h _ _ hfront

end Pattern

end Honeypot
