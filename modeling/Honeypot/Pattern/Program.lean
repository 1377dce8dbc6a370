import Honeypot.Pattern.Basic

/-!
Programs that match patterns.

A program is a list of instructions, numbered from zero. Each one names the instructions that may
follow it, and the number past the last instruction means that the pattern has matched. The
program of a pattern is laid out without gaps: its parts follow each other in the order in which
they are written, and each part starts with its first instruction.
-/

namespace Honeypot

inductive Instruction
  /-- Take one character of a set. -/
  | take (s : CharSet) (next : Nat)
  /-- Go on where a condition is met. -/
  | check (l : Look) (next : Nat)
  /-- Go on. -/
  | jump (next : Nat)
  /-- Go on in the first way or, after that, in the second. -/
  | fork (first second : Nat)
deriving DecidableEq

namespace Pattern

def size : Pattern → Nat
  | empty => 1
  | set _ => 1
  | look _ => 1
  | seq p q => p.size + q.size
  | either p q => 1 + p.size + q.size
  | optional p _ => 1 + p.size
  | star p _ => 1 + p.size
  | repeated p _ => p.size + 1

def iterate (greedy : Bool) (body exit : Nat) : Instruction :=
  if greedy then .fork body exit else .fork exit body

/-- The instructions of a pattern, the first of which has the number `base`, and after which the
matching goes on at `exit`. -/
def instructions : Pattern → (base exit : Nat) → List Instruction
  | empty, _, exit => [.jump exit]
  | set s, _, exit => [.take s exit]
  | look l, _, exit => [.check l exit]
  | seq p q, base, exit =>
      p.instructions base (base + p.size) ++ q.instructions (base + p.size) exit
  | either p q, base, exit =>
      .fork (base + 1) (base + 1 + p.size) ::
        (p.instructions (base + 1) exit ++ q.instructions (base + 1 + p.size) exit)
  | optional p greedy, base, exit =>
      iterate greedy (base + 1) exit :: p.instructions (base + 1) exit
  | star p greedy, base, exit =>
      iterate greedy (base + 1) exit :: p.instructions (base + 1) base
  | repeated p greedy, base, exit =>
      p.instructions base (base + p.size) ++ [iterate greedy base exit]

def program (p : Pattern) : Array Instruction := (p.instructions 0 p.size).toArray

theorem length_instructions (p : Pattern) (base exit : Nat) :
    (p.instructions base exit).length = p.size := by
  induction p generalizing base exit with
  | empty => rfl
  | set s => rfl
  | look l => rfl
  | seq p q ihp ihq => simp [instructions, size, ihp, ihq]
  | either p q ihp ihq => simp [instructions, size, ihp, ihq]; omega
  | optional p greedy ih => simp [instructions, size, ih]; omega
  | star p greedy ih => simp [instructions, size, ih]; omega
  | repeated p greedy ih => simp [instructions, size, ih]

@[simp]
theorem size_program (p : Pattern) : p.program.size = p.size := by
  simp [program, length_instructions]

end Pattern

end Honeypot
