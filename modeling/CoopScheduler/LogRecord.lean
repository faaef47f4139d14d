/-!
# Log records

What a scheduler reports about its work: one line of text at one of four levels.
-/

namespace CoopScheduler

/-- How much a log record matters. -/
inductive LogLevel where
  | error
  | info
  | debug
  | trace
deriving DecidableEq

/-- A level is written in capitals. -/
def LogLevel.text : LogLevel → String
  | error => "ERROR"
  | info => "INFO"
  | debug => "DEBUG"
  | trace => "TRACE"

/-- One line of the log. -/
structure LogRecord where
  /-- How much it matters. -/
  level : LogLevel
  /-- What it says. -/
  text : String
deriving DecidableEq

end CoopScheduler
