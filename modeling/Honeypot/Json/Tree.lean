import Honeypot.Json.Token

/-!
The syntax of a JSON text: a tree in which numbers are as written and objects keep their members
in order, repeated names included. The reader keeps the arrays and objects that are still open on
a stack, so texts may nest to any depth.
-/

namespace Honeypot.Json

inductive Tree
  | null
  | bool (value : Bool)
  | number (value : Numeral)
  | text (content : Content)
  | array (items : List Tree)
  | object (members : List (Content × Tree))

/-- An array or object that is still open, with what it holds so far, in reverse. -/
inductive Open
  | array (reversed : List Tree)
  | object (reversed : List (Content × Tree))
  | member (reversed : List (Content × Tree)) (name : Content)

inductive Expected
  | value
  | firstItem
  | firstName
  | name
  | colon
  | separator
  | nothing (result : Tree)

/-- The reader after some tokens: what may come next, and what is open, innermost first. -/
structure Reader where
  expected : Expected
  stack : List Open

namespace Reader

def start : Reader := ⟨.value, []⟩

def deliver (value : Tree) : List Open → Option Reader
  | [] => some ⟨.nothing value, []⟩
  | .array reversed :: stack => some ⟨.separator, .array (value :: reversed) :: stack⟩
  | .member reversed name :: stack =>
    some ⟨.separator, .object ((name, value) :: reversed) :: stack⟩
  | .object _ :: _ => none

def beginValue (stack : List Open) : Token → Option Reader
  | .null => deliver .null stack
  | .bool value => deliver (.bool value) stack
  | .number value => deliver (.number value) stack
  | .text content => deliver (.text content) stack
  | .arrayStart => some ⟨.firstItem, .array [] :: stack⟩
  | .objectStart => some ⟨.firstName, .object [] :: stack⟩
  | _ => none

def close (token : Token) : List Open → Option Reader
  | .array reversed :: stack =>
      match token with
      | .arrayEnd => deliver (.array reversed.reverse) stack
      | _ => none
  | .object reversed :: stack =>
      match token with
      | .objectEnd => deliver (.object reversed.reverse) stack
      | _ => none
  | _ => none

def beginMember (token : Token) : List Open → Option Reader
  | .object reversed :: stack =>
      match token with
      | .text name => some ⟨.colon, .member reversed name :: stack⟩
      | _ => none
  | _ => none

def separate (token : Token) (stack : List Open) : Option Reader :=
  match token with
  | .comma =>
      match stack with
      | .array _ :: _ => some ⟨.value, stack⟩
      | .object _ :: _ => some ⟨.name, stack⟩
      | _ => none
  | _ => close token stack

def step (r : Reader) (token : Token) : Option Reader :=
  match r.expected with
  | .value => beginValue r.stack token
  | .firstItem =>
      match token with
      | .arrayEnd => close token r.stack
      | _ => beginValue r.stack token
  | .firstName =>
      match token with
      | .objectEnd => close token r.stack
      | _ => beginMember token r.stack
  | .name => beginMember token r.stack
  | .colon =>
      match token with
      | .colon => some ⟨.value, r.stack⟩
      | _ => none
  | .separator => separate token r.stack
  | .nothing _ => none

def finish (r : Reader) : Option Tree :=
  match r.expected with
  | .nothing result => some result
  | _ => none

end Reader

def Tree.ofTokens? (tokens : List Token) : Option Tree :=
  (tokens.foldlM Reader.step Reader.start).bind Reader.finish

/-- Read a text that holds one value and nothing else but white space. -/
def Tree.ofText? (text : String) : Option Tree :=
  (scan? text.toList).bind Tree.ofTokens?

end Honeypot.Json
