import Honeypot.Pattern.Program
import Honeypot.Pattern.Trail

/-!
Where patterns match.

Places in a text are numbered from zero, before its first character. The program of a pattern is
followed depth first, so that the preferred way comes first. What can follow an instruction at a
place does not depend on how it was reached, so no instruction is tried twice at one place, not
even from another start: a search takes time in proportion to the text and to the program.
-/

namespace Honeypot

def wordBefore (text : Array Char) (i : Nat) : Bool :=
  match i with
  | 0 => false
  | j + 1 => (text[j]?).any isWordChar

def wordAfter (text : Array Char) (i : Nat) : Bool := (text[i]?).any isWordChar

def Look.holds (text : Array Char) (i : Nat) : Look → Bool
  | .textStart => i == 0
  | .textEnd => i == text.size
  | .lineStart => i == 0 || text[i - 1]? == some '\n'
  | .lineEnd => i == text.size || text[i]? == some '\n'
  | .boundary => wordBefore text i != wordAfter text i
  | .noBoundary => wordBefore text i == wordAfter text i

structure Pattern.State where
  instruction : Nat
  place : Nat
deriving DecidableEq

/-- The states that may follow an instruction at a place, the preferred one first. -/
def Instruction.onward (text : Array Char) (i : Nat) : Instruction → List Pattern.State
  | take s next => if (text[i]?).any s.contains then [⟨next, i + 1⟩] else []
  | check l next => if l.holds text i then [⟨next, i⟩] else []
  | jump next => [⟨next, i⟩]
  | fork first second => [⟨first, i⟩, ⟨second, i⟩]

namespace Pattern

/-- Follow a program from waiting states, the first one first, up to the first match, whose end is
found. The number of states looked at is bounded. -/
def explore (program : Array Instruction) (text : Array Char) :
    Nat → Trail → List State → Trail × Option Nat
  | 0, trail, _ => (trail, none)
  | _ + 1, trail, [] => (trail, none)
  | bound + 1, trail, state :: waiting =>
      if trail.contains state.instruction state.place then
        explore program text bound trail waiting
      else
        match program[state.instruction]? with
        | none => (trail, some state.place)
        | some instruction =>
            explore program text bound (trail.insert state.instruction state.place)
              (instruction.onward text state.place ++ waiting)

/-- A bound for the states that are looked at from one start: each instruction goes on in two ways
at most from each place. -/
def exploreBound (program : Array Instruction) (text : Array Char) : Nat :=
  2 * (program.size * (text.size + 1)) + 2

/-- The first match among those that start at one of so many places from `i` on: its start and its
end. -/
def firstFrom (program : Array Instruction) (text : Array Char) :
    Nat → Trail → Nat → Option (Nat × Nat)
  | 0, _, _ => none
  | starts + 1, trail, i =>
      match explore program text (exploreBound program text) trail [⟨0, i⟩] with
      | (_, some j) => some (i, j)
      | (trail, none) => firstFrom program text starts trail (i + 1)

def first? (program : Array Instruction) (text : Array Char) (i : Nat) : Option (Nat × Nat) :=
  firstFrom program text (text.size + 1 - i) .empty i

/-- At most so many successive matches from a place on that do not overlap. Each one starts as
early as possible, and an empty one does not stand at the end of the match before it, which is
`last`. -/
def spansFrom (program : Array Instruction) (text : Array Char) :
    Nat → Option Nat → Nat → List (Nat × Nat)
  | 0, _, _ => []
  | count + 1, last, i =>
      match first? program text i with
      | none => []
      | some (start, stop) =>
          if start < stop then (start, stop) :: spansFrom program text count (some stop) stop
          else if last = some start then spansFrom program text count last (start + 1)
          else (start, stop) :: spansFrom program text count (some start) (start + 1)

/-- The successive matches in a text. There is at most one for each place. -/
def spans (p : Pattern) (text : Array Char) : List (Nat × Nat) :=
  spansFrom p.program text (text.size + 1) none 0

def occurrences (p : Pattern) (text : String) : List String :=
  let chars := text.toList.toArray
  (p.spans chars).map fun span => String.ofList (chars.extract span.1 span.2).toList

end Pattern

end Honeypot
