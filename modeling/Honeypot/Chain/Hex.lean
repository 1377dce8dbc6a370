import Honeypot.Json.Record

namespace Honeypot.Hex

open Honeypot.Json

def dropPrefix : List Char → List Char
  | '0' :: 'x' :: rest => rest
  | '0' :: 'X' :: rest => rest
  | text => text

/-- A number in lower-case digits, as many as asked for, the highest first. -/
def ofWidth : Nat → Nat → List Char
  | 0, _ => []
  | width + 1, n => hexDigit (n / Nat.pow 16 width) :: ofWidth width n

def toNat? (digits : List Char) : Option Nat :=
  digits.foldlM (fun n c => (hexValue? c).map (16 * n + ·)) 0

/-- Read a field of so many bytes: a text of two digits for each byte, with or without a prefix,
or an array of the bytes. -/
def field? (bytes : Nat) : Tree → Option Nat
  | .text (some text) =>
      let digits := dropPrefix text.toList
      if digits.length = 2 * bytes then toNat? digits else none
  | .array items =>
      if items.length = bytes then
        (items.mapM (Tree.natBelow? 256)).map (List.foldl (256 * · + ·) 0)
      else none
  | _ => none

def writeField (bytes n : Nat) : String := String.ofList ('0' :: 'x' :: ofWidth (2 * bytes) n)

end Honeypot.Hex
