namespace Honeypot

inductive LogLevel
  | info
  | warn
deriving DecidableEq

structure LogLine where
  level : LogLevel
  message : String
deriving DecidableEq

namespace LogLine

def info (message : String) : LogLine := ⟨.info, message⟩

def warn (message : String) : LogLine := ⟨.warn, message⟩

def text (line : LogLine) : String :=
  match line.level with
  | .info => "INFO " ++ line.message
  | .warn => "WARN " ++ line.message

end LogLine

end Honeypot
