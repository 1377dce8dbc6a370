import Honeypot.Config.Rules
import Honeypot.Contract.Abi

namespace Honeypot

open Honeypot.Json

def occursIn (part : List Char) : List Char → Bool
  | [] => part.isEmpty
  | c :: rest => part.isPrefixOf (c :: rest) || occursIn part rest

/-- Holds for functions that take payment and may write state. -/
def AbiEntry.isCandidate (e : AbiEntry) : Bool := e.mutatesState && e.takesPayment

variable {K : Type}

/-- Holds when the name of an entry contains the fragment of a rule, in lower case. -/
def NameRule.hits (rule : NameRule K) (e : AbiEntry) : Bool :=
  occursIn rule.fragment.toList (lowercase e.name).toList

def hitValue (hit : AbiEntry × NameRule K) : Value K :=
  .object [
    ("indicator", .text hit.2.fragment),
    ("name", .text hit.1.name),
    ("selector", .text hit.1.selector),
    ("signature", .text hit.1.signature)]

namespace Config

variable [Scalar K]

omit [Scalar K] in
def nameHits (c : Config K) (abi : List AbiEntry) : List (AbiEntry × NameRule K) :=
  (abi.filter AbiEntry.isCandidate).flatMap fun e =>
    (c.nameRules.filter (·.hits e)).map fun rule => (e, rule)

/-- The techniques of some hits, each with the largest of its weights and zero. -/
def strongest (hits : List (AbiEntry × NameRule K)) : StringMap K :=
  hits.foldl (fun strongest hit =>
    let technique := hit.2.technique
    let weight := (strongest.find? technique).getD Scalar.zero
    strongest.insert technique (Scalar.max weight hit.2.weight)) .empty

/-- What an interface gives away. Each technique counts once. -/
def scanAbi (c : Config K) (abi : List AbiEntry) : Finding K :=
  let hits := c.nameHits abi
  let weights := strongest hits
  { Finding.of .functions (Scalar.capAtOne (Scalar.sum weights.values)) with
    techniques := StringSet.ofList weights.keys
    evidence := StringMap.ofList [
      ("function_count", .ofNat abi.length),
      ("payable_mutating_count", .ofNat (abi.countP AbiEntry.isCandidate)),
      ("matched_functions", .array (hits.map hitValue))] }

def inspectAbi (c : Config K) (abi : Option (List AbiEntry)) : Outcome K :=
  match abi with
  | some abi => .ran (c.scanAbi abi)
  | none => .unavailable .functions none

end Config

end Honeypot
