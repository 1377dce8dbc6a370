import Honeypot.Json.Text
import Honeypot.Pattern.CharSet

namespace Honeypot

namespace Pattern

def fixedHex? (count : Nat) (text : List Char) : Option (Char × List Char) :=
  let digits := text.take count
  if digits.length ≠ count then none
  else (toChar? digits).map fun c => (c, text.drop count)
where
  /-- The character whose number the digits spell. -/
  toChar? (digits : List Char) : Option Char :=
    match digits.foldlM (fun n c => (Json.hexValue? c).map (16 * n + ·)) 0 with
    | some n => if h : n.isValidChar then some (Char.ofNatAux n h) else none
    | none => none

/-- Read the number of a character, of a fixed width or between braces. -/
def hexChar? (width : Nat) : List Char → Option (Char × List Char)
  | '\x7b' :: rest =>
      let digits := rest.takeWhile (· ≠ '\x7d')
      match rest.drop digits.length with
      | [] => none
      | _ :: rest => if digits.isEmpty then none else (fixedHex?.toChar? digits).map (·, rest)
  | text => fixedHex? width text

def namedSet? (letter : Char) : Option CharSet :=
  if letter == 'd' then some .digit
  else if letter == 'D' then some (.complement .digit)
  else if letter == 's' then some .blank
  else if letter == 'S' then some (.complement .blank)
  else if letter == 'w' then some .word
  else if letter == 'W' then some (.complement .word)
  else none

def controlEscapes : List (Char × Char) :=
  [('a', '\x07'), ('f', '\x0C'), ('t', '\t'), ('n', '\n'), ('r', '\r'), ('v', '\x0B')]

/-- Read what stands for one character after a backslash. Marks may be escaped whether they have a
meaning or not; letters and digits only where they stand for something. -/
def escapedChar? : List Char → Option (Char × List Char)
  | [] => none
  | c :: rest =>
      match controlEscapes.lookup c with
      | some meant => some (meant, rest)
      | none =>
          if c == 'x' then hexChar? 2 rest
          else if c == 'u' then hexChar? 4 rest
          else if c == 'U' then hexChar? 8 rest
          else if c.toNat < 0x80 && !c.isAlphanum && c != '<' && c != '>' then some (c, rest)
          else none

end Pattern

namespace Bracket

inductive Combination
  | both
  | without
  | eitherNotBoth

/-- A bracket that is still open: whether it is negated, what stands before the last combining
mark, and the sets since then. -/
structure Frame where
  negated : Bool
  left : Option (Combination × CharSet)
  sets : CharSet

def asciiSets : List (String × CharSet) :=
  let lower := CharSet.range 'a' 'z'
  let upper := CharSet.range 'A' 'Z'
  let decimal := CharSet.range '0' '9'
  let alpha := CharSet.union lower upper
  [("alnum", .union decimal alpha),
    ("alpha", alpha),
    ("ascii", .range '\x00' '\x7F'),
    ("blank", .union (.char '\t') (.char ' ')),
    ("cntrl", .union (.range '\x00' '\x1F') (.char '\x7F')),
    ("digit", decimal),
    ("graph", .range '!' '~'),
    ("lower", lower),
    ("print", .range ' ' '~'),
    ("punct", .unions [.range '!' '/', .range ':' '@', .range '[' '\x60', .range '\x7B' '~']),
    ("space", .unions [.range '\t' '\r', .char ' ']),
    ("upper", upper),
    ("word", .unions [decimal, alpha, .char '_']),
    ("xdigit", .unions [decimal, .range 'a' 'f', .range 'A' 'F'])]

/-- Read the name of an ASCII set, between colons, after its bracket. -/
def asciiSet? : List Char → Option (CharSet × List Char)
  | ':' :: rest =>
      let (negated, rest) :=
        match rest with
        | '^' :: tail => (true, tail)
        | _ => (false, rest)
      let name := rest.takeWhile (· ≠ ':')
      match rest.drop name.length, asciiSets.lookup (String.ofList name) with
      | ':' :: ']' :: rest, some s => some (if negated then .complement s else s, rest)
      | _, _ => none
  | _ => none

def item? : List Char → Option ((Char ⊕ CharSet) × List Char)
  | '\\' :: letter :: rest =>
      match Pattern.namedSet? letter with
      | some s => some (.inr s, rest)
      | none => (Pattern.escapedChar? (letter :: rest)).map fun (c, rest) => (.inl c, rest)
  | ['\\'] => none
  | c :: rest => some (.inl c, rest)
  | [] => none

def range? (text : List Char) : Option (CharSet × List Char) :=
  match item? text with
  | none => none
  | some (first, rest) =>
      let alone :=
        match first with
        | .inl c => CharSet.char c
        | .inr s => s
      match rest with
      | '-' :: ']' :: _ => some (alone, rest)
      | '-' :: '-' :: _ => some (alone, rest)
      | '-' :: tail =>
          match first, item? tail with
          | .inl low, some (.inl high, rest) =>
              if low ≤ high then some (.range low high, rest) else none
          | _, _ => none
      | _ => some (alone, rest)

/-- Open a bracket. A closing bracket or hyphens right at its start stand for themselves. -/
def openFrame (text : List Char) : Frame × List Char :=
  let (negated, text) :=
    match text with
    | '^' :: rest => (true, rest)
    | _ => (false, text)
  let rest := text.dropWhile (· == '-')
  if rest.length < text.length then (⟨negated, none, .char '-'⟩, rest)
  else
    match text with
    | ']' :: rest => (⟨negated, none, .char ']'⟩, rest)
    | _ => (⟨negated, none, .nothing⟩, text)

def Frame.gather (fold : CharSet → CharSet) (f : Frame) : CharSet :=
  match f.left with
  | none => f.sets
  | some (.both, left) => .both (fold left) (fold f.sets)
  | some (.without, left) => .without (fold left) (fold f.sets)
  | some (.eitherNotBoth, left) => .eitherNotBoth (fold left) (fold f.sets)

/-- The set of a bracket. Case is ignored before the set is negated. -/
def Frame.close (fold : CharSet → CharSet) (f : Frame) : CharSet :=
  let s := fold (f.gather fold)
  if f.negated then .complement s else s

def Frame.add (f : Frame) (s : CharSet) : Frame := { f with sets := .union f.sets s }

def Frame.combine (fold : CharSet → CharSet) (f : Frame) (how : Combination) : Frame :=
  { f with left := some (how, f.gather fold), sets := .nothing }

/-- Read on inside an open bracket, with those around it, until the outermost one is closed. Each
step takes a character at least, which bounds the steps. -/
def readOpen (fold : CharSet → CharSet) :
    Nat → Frame → List Frame → List Char → Option (CharSet × List Char)
  | 0, _, _, _ => none
  | steps + 1, frame, outer, text =>
      match text with
      | [] => none
      | '[' :: rest =>
          match asciiSet? rest with
          | some (s, rest) => readOpen fold steps (frame.add s) outer rest
          | none =>
              let (inner, rest) := openFrame rest
              readOpen fold steps inner (frame :: outer) rest
      | ']' :: rest =>
          let s := frame.close fold
          match outer with
          | [] => some (s, rest)
          | around :: outer => readOpen fold steps (around.add s) outer rest
      | '&' :: '&' :: rest => readOpen fold steps (frame.combine fold .both) outer rest
      | '-' :: '-' :: rest => readOpen fold steps (frame.combine fold .without) outer rest
      | '~' :: '~' :: rest => readOpen fold steps (frame.combine fold .eitherNotBoth) outer rest
      | _ =>
          match range? text with
          | some (s, rest) => readOpen fold steps (frame.add s) outer rest
          | none => none

def read (ignoreCase : Bool) (text : List Char) : Option (CharSet × List Char) :=
  let fold := if ignoreCase then CharSet.ignoringCase else id
  let (frame, rest) := openFrame text
  readOpen fold (text.length + 1) frame [] rest

end Bracket

end Honeypot
