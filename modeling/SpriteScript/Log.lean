import SpriteScript.Warning
import SpriteScript.Error

/-!
# Log records

Compiling reports its progress as records of a level and a message. Whoever runs it decides from
which level on records are shown.
-/

namespace SpriteScript

/-- The importance of a record. -/
inductive LogLevel where
  | debug
  | info
  | warning
  | error
  | critical
deriving DecidableEq

namespace LogLevel

/-- The name of a level. -/
def name : LogLevel → Text
  | .debug => "DEBUG"
  | .info => "INFO"
  | .warning => "WARNING"
  | .error => "ERROR"
  | .critical => "CRITICAL"

/-- The place of a level in the order of importance. -/
def rank : LogLevel → Nat
  | .debug => 10
  | .info => 20
  | .warning => 30
  | .error => 40
  | .critical => 50

end LogLevel

/-- A record, with the error that it reports if it reports one. -/
structure LogRecord where
  level : LogLevel
  message : Text
  cause : Option Error := none

namespace LogRecord

/-- The record of a warning at the moment it is noticed. -/
def noticed (warning : Warning) : LogRecord :=
  { level := .debug, message := warning.line }

/-- The record of a warning in the summary of a compilation. -/
def summarised (warning : Warning) : LogRecord :=
  { level := .info, message := "warning: " ++ warning.line }

/-- The record as a line. -/
def line (record : LogRecord) : Text :=
  record.level.name ++ " blockc: " ++ record.message ++ "\n"

end LogRecord

end SpriteScript
