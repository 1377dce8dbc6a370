import Honeypot.Pattern.CharSet

namespace Honeypot

inductive Look
  | textStart
  | textEnd
  | lineStart
  | lineEnd
  | boundary
  | noBoundary
deriving DecidableEq

/-- A pattern. Where it can match in several ways, the order of the ways matters: the first
alternative comes before the second, and a greedy repetition goes on before it stops. -/
inductive Pattern
  /-- The empty text. -/
  | empty
  /-- One character of a set. -/
  | set (s : CharSet)
  /-- A condition on the place. -/
  | look (l : Look)
  /-- One after the other. -/
  | seq (p q : Pattern)
  /-- One or the other. -/
  | either (p q : Pattern)
  /-- Once or not at all. -/
  | optional (p : Pattern) (greedy : Bool)
  /-- Any number of times. -/
  | star (p : Pattern) (greedy : Bool)
  /-- Once or more often. -/
  | repeated (p : Pattern) (greedy : Bool)
deriving DecidableEq

namespace Pattern

def sequence : List Pattern → Pattern
  | [] => empty
  | [p] => p
  | p :: ps => seq p (sequence ps)

def choice : List Pattern → Pattern
  | [] => empty
  | [p] => p
  | p :: ps => either p (choice ps)

/-- Holds for the patterns that match no empty text. -/
def alwaysTakes : Pattern → Bool
  | empty => false
  | set _ => true
  | look _ => false
  | seq p q => p.alwaysTakes || q.alwaysTakes
  | either p q => p.alwaysTakes && q.alwaysTakes
  | optional _ _ => false
  | star _ _ => false
  | repeated p _ => p.alwaysTakes

/-- Any number of times. Where the first iteration can be empty, it comes before not matching at
all. -/
def anyTimes (greedy : Bool) (p : Pattern) : Pattern :=
  if p.alwaysTakes then star p greedy else optional (repeated p greedy) greedy

def atMost (greedy : Bool) (p : Pattern) : Nat → Pattern
  | 0 => empty
  | 1 => optional p greedy
  | n + 1 => optional (seq p (atMost greedy p n)) greedy

/-- At least so many times, and at most so many where there is an upper bound. -/
def times (greedy : Bool) (p : Pattern) (least : Nat) (most : Option Nat) : Pattern :=
  match least, most with
  | 0, none => anyTimes greedy p
  | n + 1, none => sequence (List.replicate n p ++ [repeated p greedy])
  | n, some m =>
      sequence (List.replicate n p ++ if n < m then [atMost greedy p (m - n)] else [])

end Pattern

end Honeypot
