import Std.Data.TreeMap

namespace Honeypot.Pattern

/-- The instructions tried at each place. -/
structure Trail where
  tried : Std.TreeMap Nat Nat

namespace Trail

def empty : Trail := ⟨∅⟩

def contains (t : Trail) (instruction place : Nat) : Bool :=
  (t.tried.getD place 0).testBit instruction

def insert (t : Trail) (instruction place : Nat) : Trail :=
  ⟨t.tried.insert place (t.tried.getD place 0 ||| 1 <<< instruction)⟩

@[simp]
theorem contains_empty (instruction place : Nat) : empty.contains instruction place = false := by
  simp [empty, contains]

@[simp]
theorem contains_insert (t : Trail) (s i s' i' : Nat) :
    (t.insert s i).contains s' i' = (decide (s = s' ∧ i = i') || t.contains s' i') := by
  by_cases hi : i = i'
  · subst hi
    simp [insert, contains, Nat.one_shiftLeft, Nat.testBit_two_pow, Bool.or_comm]
  · simp [insert, contains, Std.TreeMap.getD_insert, hi]

end Trail

end Honeypot.Pattern
