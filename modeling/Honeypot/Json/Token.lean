import Honeypot.Json.Text
import Honeypot.Number.Decimal

namespace Honeypot.Json

inductive Token
  | arrayStart
  | arrayEnd
  | objectStart
  | objectEnd
  | comma
  | colon
  | null
  | bool (value : Bool)
  | number (value : Numeral)
  | text (content : Content)

/-- What the scanner is in the middle of, with the characters of it so far, in reverse. -/
inductive Within
  | gap
  | word (reversed : List Char)
  | text (reversed : List Char)
  | escape (reversed : List Char)

/-- The scanner after some characters: what it is in the middle of, and the tokens before that, in
reverse. -/
structure Scanner where
  within : Within
  reversed : List Token

namespace Scanner

def start : Scanner := ⟨.gap, []⟩

def isGapChar (c : Char) : Bool := c == ' ' || c == '\t' || c == '\n' || c == '\r'

def isBareChar (c : Char) : Bool := c.isAlphanum || c == '+' || c == '-' || c == '.'

def wordToken? (word : List Char) : Option Token :=
  if word = ['n', 'u', 'l', 'l'] then some .null
  else if word = ['t', 'r', 'u', 'e'] then some (.bool true)
  else if word = ['f', 'a', 'l', 's', 'e'] then some (.bool false)
  else (Numeral.ofText? word).map .number

def markToken? (c : Char) : Option Token :=
  if c == '[' then some .arrayStart
  else if c == ']' then some .arrayEnd
  else if c == '\x7b' then some .objectStart
  else if c == '\x7d' then some .objectEnd
  else if c == ',' then some .comma
  else if c == ':' then some .colon
  else none

def stepGap (tokens : List Token) (c : Char) : Option Scanner :=
  if isGapChar c then some ⟨.gap, tokens⟩
  else if c == '"' then some ⟨.text [], tokens⟩
  else if isBareChar c then some ⟨.word [c], tokens⟩
  else (markToken? c).map fun token => ⟨.gap, token :: tokens⟩

def step (s : Scanner) (c : Char) : Option Scanner :=
  match s.within with
  | .gap => stepGap s.reversed c
  | .word reversed =>
      if isBareChar c then some ⟨.word (c :: reversed), s.reversed⟩
      else (wordToken? reversed.reverse).bind fun token => stepGap (token :: s.reversed) c
  | .text reversed =>
      if c == '"' then
        (readContent? reversed.reverse).map fun content => ⟨.gap, .text content :: s.reversed⟩
      else if c == '\\' then some ⟨.escape (c :: reversed), s.reversed⟩
      else some ⟨.text (c :: reversed), s.reversed⟩
  | .escape reversed => some ⟨.text (c :: reversed), s.reversed⟩

def finish (s : Scanner) : Option (List Token) :=
  match s.within with
  | .gap => some s.reversed.reverse
  | .word reversed =>
      (wordToken? reversed.reverse).map fun token => (token :: s.reversed).reverse
  | .text _ => none
  | .escape _ => none

end Scanner

def scan? (text : List Char) : Option (List Token) :=
  (text.foldlM Scanner.step Scanner.start).bind Scanner.finish

end Honeypot.Json
