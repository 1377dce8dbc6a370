import Honeypot.Bytecode.Code
import Honeypot.Finding

namespace Honeypot

inductive Fault
  | notJson
  | badInput (message : String)
  | badCode (error : CodeError)
  | detectorFailed (failure : Failure)
  | badSetting (key message : String)
  | badPattern
  | unknown (message : String)
deriving DecidableEq

namespace Fault

def code : Fault → String
  | .notJson => "INPUT_INVALID"
  | .badInput _ => "INPUT_INVALID"
  | .badCode (.oddLength _) => "DECODE_ODD_LENGTH"
  | .badCode (.invalidHex _ _) => "DECODE_INVALID_HEX"
  | .detectorFailed _ => "DETECTOR_FAILED"
  | .badSetting _ _ => "CFG_INVALID_VALUE"
  | .badPattern => "PATTERN_INVALID"
  | .unknown _ => "UNKNOWN_ERROR"

def message : Fault → String
  | .notJson => "JSON parse error"
  | .badInput message => message
  | .badCode error => error.message
  | .detectorFailed failure => failure.display
  | .badSetting key message => key ++ ": " ++ message
  | .badPattern => "Invalid source pattern"
  | .unknown message => message

def display (f : Fault) : String := "[" ++ f.code ++ "] " ++ f.message

def hasCause : Fault → Bool
  | .notJson | .badCode _ | .detectorFailed _ | .badPattern => true
  | .badInput _ | .badSetting _ _ | .unknown _ => false

def zeroChain : Fault := .badInput "chain_id must be non-zero"

end Fault

end Honeypot
