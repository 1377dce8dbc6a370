import Honeypot.Json.Tree
import Honeypot.Number.Shortest
import Honeypot.StringMap

namespace Honeypot.Json

/-- A value. Numbers are integers, or elements of a type `K` of other numbers. -/
inductive Value (K : Type)
  | null
  | bool (value : Bool)
  | int (value : Int)
  | real (value : K)
  | text (value : String)
  | array (items : List (Value K))
  | object (members : List (String × Value K))
deriving BEq

namespace Value

variable {K : Type}

instance : Inhabited (Value K) := ⟨.null⟩

def ofNat (n : Nat) : Value K := .int n

def ofTexts (texts : List String) : Value K := .array (texts.map .text)

def ofSet (texts : StringSet) : Value K := ofTexts texts.toList

def ofMap (entries : StringMap (Value K)) : Value K := .object entries.entries

def ofOption {α : Type} (f : α → Value K) : Option α → Value K
  | some a => f a
  | none => .null

def writeInt (n : Int) : List Char :=
  if n < 0 then '-' :: Nat.toDigits 10 n.natAbs else Nat.toDigits 10 n.natAbs

/-- Write a double; what is no finite number is written as null. -/
def writeReal (x : Float) : List Char :=
  if x.isFinite then Double.write x else ['n', 'u', 'l', 'l']

mutual

def write : Value Float → List Char
  | .null => ['n', 'u', 'l', 'l']
  | .bool true => ['t', 'r', 'u', 'e']
  | .bool false => ['f', 'a', 'l', 's', 'e']
  | .int n => writeInt n
  | .real x => writeReal x
  | .text t => writeText t
  | .array [] => ['[', ']']
  | .array (item :: items) => '[' :: (write item ++ writeItems items)
  | .object [] => ['\x7b', '\x7d']
  | .object ((name, value) :: members) =>
      '\x7b' :: (writeText name ++ ':' :: (write value ++ writeMembers members))

def writeItems : List (Value Float) → List Char
  | [] => [']']
  | item :: items => ',' :: (write item ++ writeItems items)

def writeMembers : List (String × Value Float) → List Char
  | [] => ['\x7d']
  | (name, value) :: members =>
      ',' :: (writeText name ++ ':' :: (write value ++ writeMembers members))

end

def toText (v : Value Float) : String := String.ofList v.write

/-- The value of a number: integers that fit in 64 bits, signed or unsigned, stay integers, and
every other number becomes the nearest double unless that is infinite. Minus zero is a double. -/
def ofNumeral? (n : Numeral) : Option (Value Float) :=
  let size := n.size.coefficient
  if n.integral && !n.negative && size < Nat.pow 2 64 then some (.int size)
  else if n.integral && n.negative && 0 < size && size ≤ Nat.pow 2 63 then some (.int (-size))
  else n.toFloat?.map .real

mutual

/-- The value of a tree in which at most so many arrays and objects are open at once. Of members
with one name the last counts. -/
def ofTree? (levels : Nat) : Tree → Option (Value Float)
  | .null => some .null
  | .bool value => some (.bool value)
  | .number n => ofNumeral? n
  | .text content => content.map .text
  | .array items =>
      match levels with
      | 0 => none
      | below + 1 => (ofItems? below items).map .array
  | .object members =>
      match levels with
      | 0 => none
      | below + 1 => (ofMembers? below members).map fun entries => .object entries.entries

def ofItems? (levels : Nat) : List Tree → Option (List (Value Float))
  | [] => some []
  | item :: items =>
      match ofTree? levels item with
      | none => none
      | some value => (ofItems? levels items).map (value :: ·)

def ofMembers? (levels : Nat) : List (Content × Tree) → Option (StringMap (Value Float))
  | [] => some .empty
  | (name, tree) :: members =>
      match name, ofTree? levels tree with
      | some name, some value =>
          (ofMembers? levels members).map fun entries =>
            if (entries.find? name).isSome then entries else entries.insert name value
      | _, _ => none

end

def maxLevels : Nat := 127

def ofText? (text : String) : Option (Value Float) :=
  (Tree.ofText? text).bind (ofTree? maxLevels)

end Value

end Honeypot.Json
