import Honeypot.Json.Tree

/-!
Reading records from JSON trees.

A record is an object whose members may come in any order, or an array of the fields in their
order of declaration. A field may have several names, of which one member at most may use one;
members with other names are skipped.
-/

namespace Honeypot.Json

namespace Tree

/-- The member for a field with the given names, if there is one. Two members for one field are
refused. -/
def pick? (members : List (Content × Tree)) (names : List String) : Option (Option Tree) :=
  match members.filter fun member => names.any (some · == member.1) with
  | [] => some none
  | [member] => some (some member.2)
  | _ => none

def fields? (names : List (List String)) : Tree → Option (List (Option Tree))
  | .object members =>
      if members.all (·.1.isSome) then names.mapM (pick? members) else none
  | .array items =>
      if items.length ≤ names.length then
        some (items.map some ++ List.replicate (names.length - items.length) none)
      else none
  | _ => none

def text? : Tree → Option String
  | .text content => content
  | _ => none

def bool? : Tree → Option Bool
  | .bool value => some value
  | _ => none

/-- An integer from zero up to a bound, which is itself left out. -/
def natBelow? (bound : Nat) : Tree → Option Nat
  | .number n => n.toNat?.filter (· < bound)
  | _ => none

def word? (t : Tree) : Option UInt64 := (t.natBelow? (Nat.pow 2 64)).map UInt64.ofNat

def float? : Tree → Option Float
  | .number n => n.toFloat?
  | _ => none

def list? {α : Type} (read : Tree → Option α) : Tree → Option (List α)
  | .array items => items.mapM read
  | _ => none

def nullable? {α : Type} (read : Tree → Option α) : Tree → Option (Option α)
  | .null => some none
  | t => (read t).map some

/-- A name out of a table, as a text or as the only member of an object, with null for its
value. -/
def choice? {α : Type} (table : List (String × α)) : Tree → Option α
  | .text (some name) => table.lookup name
  | .object [(some name, .null)] => table.lookup name
  | _ => none

end Tree

def required {α : Type} (read : Tree → Option α) (given : Option Tree) : Option α :=
  given.bind read

def optional {α : Type} (default : α) (read : Tree → Option α) (given : Option Tree) : Option α :=
  match given with
  | some tree => read tree
  | none => some default

end Honeypot.Json
