namespace Honeypot.Json

/-- The letter that stands for a control character after a backslash, where there is one. -/
def shortEscapes : List (Char × Char) :=
  [('b', '\x08'), ('t', '\t'), ('n', '\n'), ('f', '\x0C'), ('r', '\r')]

def hexDigit (n : Nat) : Char := Nat.digitChar (n % 16)

/-- Write one character between quotes. Only quotes, backslashes and controls are escaped. -/
def escapeChar (c : Char) : List Char :=
  if c == '"' || c == '\\' then ['\\', c]
  else if c.toNat < 0x20 then
    match shortEscapes.find? (·.2 == c) with
    | some (letter, _) => ['\\', letter]
    | none => ['\\', 'u', '0', '0', hexDigit (c.toNat / 16), hexDigit c.toNat]
  else [c]

def writeText (text : String) : List Char :=
  '"' :: (text.toList.flatMap escapeChar ++ ['"'])

def hexValue? (c : Char) : Option Nat :=
  if '0' ≤ c ∧ c ≤ '9' then some (c.toNat - 0x30)
  else if 'a' ≤ c ∧ c ≤ 'f' then some (c.toNat - 0x61 + 10)
  else if 'A' ≤ c ∧ c ≤ 'F' then some (c.toNat - 0x41 + 10)
  else none

def codeUnit? (a b c d : Char) : Option Nat := do
  let a ← hexValue? a
  let b ← hexValue? b
  let c ← hexValue? c
  let d ← hexValue? d
  return ((a * 16 + b) * 16 + c) * 16 + d

def shortEscape? (letter : Char) : Option Char :=
  if letter == '"' || letter == '\\' || letter == '/' then some letter
  else shortEscapes.lookup letter

inductive Piece
  | char (c : Char)
  | unit (n : Nat)

/-- Split what stands between quotes into pieces, after those already found, in reverse. Control
characters and unknown escapes are refused. -/
def splitPieces (found : List Piece) : List Char → Option (List Piece)
  | [] => some found.reverse
  | '\\' :: 'u' :: a :: b :: c :: d :: rest =>
      match codeUnit? a b c d with
      | some n => splitPieces (.unit n :: found) rest
      | none => none
  | '\\' :: letter :: rest =>
      match shortEscape? letter with
      | some c => splitPieces (.char c :: found) rest
      | none => none
  | c :: rest =>
      if c == '\\' || c.toNat < 0x20 then none else splitPieces (.char c :: found) rest

def isHighHalf (n : Nat) : Bool := 0xD800 ≤ n && n < 0xDC00

def isLowHalf (n : Nat) : Bool := 0xDC00 ≤ n && n < 0xE000

def joinHalves (high low : Nat) : Char :=
  Char.ofNat (0x10000 + (high - 0xD800) * 0x400 + (low - 0xDC00))

/-- Join pieces to characters, after those already joined, in reverse. There is no result when
half of a surrogate pair stands alone. -/
def joinPieces (joined : List Char) : List Piece → Option (List Char)
  | [] => some joined.reverse
  | .char c :: rest => joinPieces (c :: joined) rest
  | .unit high :: .unit low :: rest =>
      if isHighHalf high && isLowHalf low then joinPieces (joinHalves high low :: joined) rest
      else if isHighHalf high || isLowHalf high then none
      else joinPieces (Char.ofNat high :: joined) (.unit low :: rest)
  | .unit n :: rest =>
      if isHighHalf n || isLowHalf n then none else joinPieces (Char.ofNat n :: joined) rest

/-- What stands between two quotes, or nothing when half of a surrogate pair stands alone in it.
Such a text is well-formed, but no value. -/
abbrev Content := Option String

def readContent? (written : List Char) : Option Content :=
  (splitPieces [] written).map fun pieces => (joinPieces [] pieces).map String.ofList

end Honeypot.Json
