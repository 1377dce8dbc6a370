import Honeypot.Config.Rules

namespace Honeypot

open Honeypot.Json

variable {K : Type}

def maxSnippets : Nat := 3

/-- What is told of the passages that a rule found. The first ones are quoted, the others are only
counted with them. -/
def passagesValue (passages : List String) : Value K :=
  let (snippets, others) := passages.splitAt maxSnippets
  .object [
    ("count", .ofNat (snippets.length + others.length)),
    ("snippets", .ofTexts snippets)]

namespace Config

/-- The rules that find a passage in a text, each with all passages that it finds. -/
def firedSourceRules (c : Config K) (source : String) : List (SourceRule K × List String) :=
  (c.sourceRules.map fun rule => (rule, rule.pattern.occurrences source)).filter
    fun entry => !entry.2.isEmpty

variable [Scalar K]

/-- What a source text gives away. Each rule counts once, however many passages it finds; of rules
with one name the last leaves its evidence. -/
def scanSource (c : Config K) (source : String) : Finding K :=
  let fired := c.firedSourceRules source
  let score := (fired.map (·.1.weight)).foldl (· + ·) Scalar.zero
  { name := Detector.source.name
    confidence := Scalar.capAtOne score
    techniques := StringSet.ofList (fired.map (·.1.technique))
    evidence := StringMap.ofList (fired.map fun entry => (entry.1.id, passagesValue entry.2)) }

def inspectSource (c : Config K) (source : Option String) : Outcome K :=
  match source with
  | some source => .ran (c.scanSource source)
  | none => .unavailable .source none

end Config

end Honeypot
