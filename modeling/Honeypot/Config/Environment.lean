import Honeypot.Config.Standard
import Honeypot.Log
import Honeypot.Text.Quoted

namespace Honeypot

def trimBlanks (text : List Char) : List Char :=
  ((text.dropWhile isBlank).reverse.dropWhile isBlank).reverse

/-- Read digits after a number read so far, which has 64 bits. The first digit that is none, or
with which the number no longer fits, is what is wrong. -/
def readDigits (n : Nat) : List Char → Except String Nat
  | [] => .ok n
  | c :: rest =>
      if c.isDigit then
        let next := 10 * n + (c.toNat - 0x30)
        if next < Nat.pow 2 64 then readDigits next rest
        else .error "number too large to fit in target type"
      else .error "invalid digit found in string"

def readWord (text : List Char) : Except String UInt64 :=
  let digits :=
    match text with
    | '+' :: rest => rest
    | _ => text
  if digits.isEmpty then .error "invalid digit found in string"
  else (readDigits 0 digits).map UInt64.ofNat

/-- Read a decimal number without a sign. Digits may be missing before or after the point, but not
on both sides. -/
def readDecimal? (text : List Char) : Option Decimal :=
  let (whole, rest) := splitDigits text
  let (fraction, rest) :=
    match rest with
    | '.' :: tail => splitDigits tail
    | _ => ([], rest)
  if whole.isEmpty && fraction.isEmpty then none
  else
    match splitExponent rest with
    | some (exponent, []) =>
        some ⟨Nat.ofDigitChars 10 (whole ++ fraction) 0, exponent - fraction.length⟩
    | _ => none

/-- Read a double: a decimal number, or infinity or not-a-number by name, in any case. -/
def readDouble (text : List Char) : Except String Float :=
  let (negative, unsigned) := splitSign text
  match readDecimal? unsigned with
  | some decimal => .ok (Double.ofPattern negative decimal.pattern)
  | none =>
      let name := String.ofList (unsigned.map Char.toLower)
      if name = "inf" ∨ name = "infinity" then .ok (Double.ofPattern negative Double.infinity)
      else if name = "nan" then .ok (Double.ofPattern negative (Double.infinity + Nat.pow 2 51))
      else .error "invalid float literal"

abbrev Environment := String → Option String

/-- Take a setting from a variable. A variable that is not set or blank leaves the setting as it
is. -/
def Environment.setting {α : Type} (env : Environment) (key : String)
    (read : List Char → Except String α) (accept : α → Bool) (demand : String) :
    Except Fault (Option α) :=
  match env key with
  | none => .ok none
  | some raw =>
      let text := trimBlanks raw.toList
      if text.isEmpty then .ok none
      else
        match read text with
        | .error problem => .error (.badSetting key (quotedText raw ++ ": " ++ problem))
        | .ok value =>
            if accept value then .ok (some value) else .error (.badSetting key demand)

structure Settings where
  window : Option UInt64
  share : Option UInt64
  failedShare : Option Float
  failedSamples : Option UInt64

namespace Settings

def windowKey : String := "SENTINEL_QUICK_DRAIN_WINDOW_SECS"

def shareKey : String := "SENTINEL_QUICK_DRAIN_MIN_RATIO_BPS"

def failedShareKey : String := "SENTINEL_FAILED_RATIO_THRESHOLD"

def failedSamplesKey : String := "SENTINEL_FAILED_MIN_SAMPLES"

def isShare (x : Float) : Bool := Scalar.lt Scalar.zero x && Scalar.le x Scalar.one

/-- Read the settings, in order, up to the first one that is wrong. -/
def read (env : Environment) : Except Fault Settings := do
  let window ← env.setting windowKey readWord (0 < ·) "must be > 0"
  let share ← env.setting shareKey readWord (0 < ·) "must be > 0"
  let failedShare ← env.setting failedShareKey readDouble isShare "must be in (0, 1]"
  let failedSamples ← env.setting failedSamplesKey readWord (0 < ·) "must be >= 1"
  return { window, share, failedShare, failedSamples }

def apply (s : Settings) (rules : HistoryRules Float) : HistoryRules Float :=
  { rules with
    window := s.window.getD rules.window
    share := s.share.getD rules.share
    failedShare := s.failedShare.getD rules.failedShare
    failedSamples := s.failedSamples.getD rules.failedSamples }

def log (s : Settings) : List LogLine :=
  let line (key : String) (isSet : Bool) : List LogLine :=
    if isSet then [.info ("⚙️ " ++ key ++ " overridden from environment")] else []
  line windowKey s.window.isSome ++ line shareKey s.share.isSome ++
    line failedShareKey s.failedShare.isSome ++ line failedSamplesKey s.failedSamples.isSome

end Settings

/-- The usual configuration with the settings of the environment, and what is logged about
them. -/
def Config.ofEnvironment (env : Environment) : Except Fault (Config Float × List LogLine) := do
  let settings ← Settings.read env
  let config : Config Float := .standard
  return ({ config with history := settings.apply config.history }, settings.log)

end Honeypot
