import Honeypot.Pattern.Bracket
import Honeypot.Pattern.Program

/-!
The written form of patterns.

Letters, digits, words and white space are those of Unicode. There are neither look-around nor
references to groups. Options are the letters `i` (ignore case), `m` (`^` and `$` also match at
the ends of lines), `s` (the dot also matches line ends), `U` (repetitions are lazy unless marked)
and `u`, which is always on.
-/

namespace Honeypot.Pattern

structure Options where
  ignoreCase : Bool
  multiLine : Bool
  dotAll : Bool
  lazy : Bool
deriving DecidableEq

def Options.off : Options := ⟨false, false, false, false⟩

def Options.set? (o : Options) (on : Bool) (letter : Char) : Option Options :=
  if letter == 'i' then some { o with ignoreCase := on }
  else if letter == 'm' then some { o with multiLine := on }
  else if letter == 's' then some { o with dotAll := on }
  else if letter == 'U' then some { o with lazy := on }
  else if letter == 'u' && on then some o
  else none

/-- A part of a sequence: a pattern, or a change of options, which cannot be repeated. -/
abbrev Part := Option Pattern

/-- What surrounds an open group: the options, the alternatives and the parts before it, in
reverse. -/
structure Surrounding where
  options : Options
  alternatives : List Pattern
  parts : List Part

structure Builder where
  options : Options
  outer : List Surrounding
  names : List (List Char)
  alternatives : List Pattern
  parts : List Part

namespace Builder

def start : Builder := ⟨.off, [], [], [], []⟩

def add (b : Builder) (p : Pattern) : Builder := { b with parts := some p :: b.parts }

def addSet (b : Builder) (s : CharSet) : Builder := b.add (.set s)

def addChar (b : Builder) (c : Char) : Builder :=
  b.addSet (if b.options.ignoreCase then .ignoringCase (.char c) else .char c)

def sequence (b : Builder) : Pattern := Pattern.sequence (b.parts.reverse.filterMap id)

def choice (b : Builder) : Pattern := Pattern.choice (b.sequence :: b.alternatives).reverse

def branch (b : Builder) : Builder :=
  { b with alternatives := b.sequence :: b.alternatives, parts := [] }

def openGroup (b : Builder) (options : Options) : Builder :=
  { b with
    options, alternatives := [], parts := [],
    outer := ⟨b.options, b.alternatives, b.parts⟩ :: b.outer }

def closeGroup (b : Builder) : Option Builder :=
  match b.outer with
  | [] => none
  | around :: outer =>
      some { b with
        options := around.options, outer, alternatives := around.alternatives,
        parts := some b.choice :: around.parts }

/-- The largest number of instructions that a repetition may have. -/
def maxSize : Nat := 300000

/-- Repeat the last part, unless that makes it too large. -/
def repeatLast (b : Builder) (isLazy : Bool) (least : Nat) (most : Option Nat) : Option Builder :=
  match b.parts with
  | some p :: parts =>
      let greedy := isLazy == b.options.lazy
      if maxSize < max least (most.getD 0) * p.size then none
      else some { b with parts := some (Pattern.times greedy p least most) :: parts }
  | _ => none

end Builder

/-- A question mark, which makes the repetition before it lazy. -/
def splitLazy : List Char → Bool × List Char
  | '?' :: rest => (true, rest)
  | text => (false, text)

/-- Read a bound of a repetition, with white space around it. It has 32 bits. -/
def bound? (text : List Char) : Option (Nat × List Char) :=
  let text := text.dropWhile isBlank
  let digits := text.takeWhile Char.isDigit
  let n := Nat.ofDigitChars 10 digits 0
  if digits.isEmpty || Nat.pow 2 32 ≤ n then none
  else some (n, (text.drop digits.length).dropWhile isBlank)

def bounds? (text : List Char) : Option (Nat × Option Nat × List Char) :=
  match bound? text with
  | none => none
  | some (least, rest) =>
      match rest with
      | '\x7d' :: rest => some (least, some least, rest)
      | ',' :: '\x7d' :: rest => some (least, none, rest)
      | ',' :: rest =>
          match bound? rest with
          | some (most, '\x7d' :: rest) =>
              if least ≤ most then some (least, some most, rest) else none
          | _ => none
      | _ => none

/-- Read options up to the colon or the parenthesis that ends them. No letter may occur twice, and
a minus, which turns off what follows, needs a letter after it. -/
def options? (options : Options) (seen : List Char) (on : Bool) :
    List Char → Option (Options × List Char × Char × List Char)
  | [] => none
  | c :: rest =>
      if c == ':' || c == ')' then
        if seen.head? = some '-' then none else some (options, seen, c, rest)
      else if seen.contains c then none
      else if c == '-' then options? options (c :: seen) false rest
      else (options.set? on c).bind fun options => options? options (c :: seen) on rest

def isNameStart (c : Char) : Bool := c == '_' || (isWordChar c && !isDecimalDigit c)

def isNameChar (c : Char) : Bool := isWordChar c || c == '.' || c == '[' || c == ']'

def openNamed (b : Builder) (text : List Char) : Option (Builder × List Char) :=
  let name := text.takeWhile (· ≠ '>')
  match text.drop name.length with
  | [] => none
  | _ :: rest =>
      if !b.names.contains name && name.head?.any isNameStart && name.all isNameChar then
        some ({ b with names := name :: b.names }.openGroup b.options, rest)
      else none

def openParenthesis (b : Builder) : List Char → Option (Builder × List Char)
  | '?' :: 'P' :: '<' :: rest => openNamed b rest
  | '?' :: '<' :: rest =>
      match rest with
      | '=' :: _ => none
      | '!' :: _ => none
      | _ => openNamed b rest
  | '?' :: rest =>
      match options? b.options [] true rest with
      | some (options, seen, ending, rest) =>
          if ending == ':' then some (b.openGroup options, rest)
          else if seen.isEmpty then none
          else some ({ b with options, parts := none :: b.parts }, rest)
      | none => none
  | text => some (b.openGroup b.options, text)

def escape (b : Builder) : List Char → Option (Builder × List Char)
  | [] => none
  | letter :: rest =>
      match namedSet? letter with
      | some s => some (b.addSet s, rest)
      | none =>
          if letter == 'A' then some (b.add (.look .textStart), rest)
          else if letter == 'z' then some (b.add (.look .textEnd), rest)
          else if letter == 'b' then some (b.add (.look .boundary), rest)
          else if letter == 'B' then some (b.add (.look .noBoundary), rest)
          else (escapedChar? (letter :: rest)).map fun (c, rest) => (b.addChar c, rest)

def repeatBy (b : Builder) (least : Nat) (most : Option Nat) (rest : List Char) :
    Option (Builder × List Char) :=
  let (isLazy, rest) := splitLazy rest
  (b.repeatLast isLazy least most).map (·, rest)

def step (b : Builder) (c : Char) (rest : List Char) : Option (Builder × List Char) :=
  if c == '(' then openParenthesis b rest
  else if c == ')' then b.closeGroup.map (·, rest)
  else if c == '|' then some (b.branch, rest)
  else if c == '[' then
    (Bracket.read b.options.ignoreCase rest).map fun (s, rest) => (b.addSet s, rest)
  else if c == '*' then repeatBy b 0 none rest
  else if c == '+' then repeatBy b 1 none rest
  else if c == '?' then repeatBy b 0 (some 1) rest
  else if c == '\x7b' then
    (bounds? rest).bind fun (least, most, rest) => repeatBy b least most rest
  else if c == '\\' then escape b rest
  else if c == '.' then
    some (b.addSet (if b.options.dotAll then .everything else .withinLine), rest)
  else if c == '^' then
    some (b.add (.look (if b.options.multiLine then .lineStart else .textStart)), rest)
  else if c == '$' then
    some (b.add (.look (if b.options.multiLine then .lineEnd else .textEnd)), rest)
  else some (b.addChar c, rest)

/-- Read constructs until the text ends. Each one takes a character at least, which bounds the
steps. -/
def readAll : Nat → Builder → List Char → Option Builder
  | _, b, [] => some b
  | 0, _, _ :: _ => none
  | steps + 1, b, c :: rest =>
      match step b c rest with
      | some (b, rest) => readAll steps b rest
      | none => none

/-- Read a pattern. Every group has to be closed. -/
def ofText? (text : String) : Option Pattern :=
  let chars := text.toList
  match readAll chars.length .start chars with
  | some b => if b.outer.isEmpty then some b.choice else none
  | none => none

end Honeypot.Pattern
