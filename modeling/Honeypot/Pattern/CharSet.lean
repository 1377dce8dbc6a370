import Honeypot.Text.Case
import Honeypot.Text.Word

namespace Honeypot

inductive CharSet
  | nothing
  | char (c : Char)
  | range (first last : Char)
  | word
  | digit
  | blank
  | union (a b : CharSet)
  | both (a b : CharSet)
  | complement (s : CharSet)
  | ignoringCase (s : CharSet)
deriving DecidableEq

namespace CharSet

/-- Holds for the characters of a set. Ignoring case adds every character that differs from one of
the set in case only. -/
def contains : CharSet → Char → Bool
  | nothing, _ => false
  | char d, c => c == d
  | range first last, c => first ≤ c && c ≤ last
  | word, c => isWordChar c
  | digit, c => isDecimalDigit c
  | blank, c => isBlank c
  | union a b, c => a.contains c || b.contains c
  | both a b, c => a.contains c && b.contains c
  | complement s, c => !s.contains c
  | ignoringCase (char d), c => foldChar c == foldChar d
  | ignoringCase s, c => (caseVariants c).any s.contains

def everything : CharSet := complement nothing

def withinLine : CharSet := complement (char '\n')

def without (a b : CharSet) : CharSet := both a (complement b)

def eitherNotBoth (a b : CharSet) : CharSet := union (without a b) (without b a)

def unions (sets : List CharSet) : CharSet := sets.foldl union nothing

end CharSet

end Honeypot
