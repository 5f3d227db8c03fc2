/-! Log records: what an operation reports while it runs. -/

namespace Backchain

namespace Log

/-- The importance of a record, highest first. -/
inductive Level where
  | error
  | warn
  | info
  | debug
  | trace
deriving DecidableEq

/-- The name of a level. -/
def Level.label : Level → String
  | .error => "ERROR"
  | .warn => "WARN"
  | .info => "INFO"
  | .debug => "DEBUG"
  | .trace => "TRACE"

/-- One message at a level. -/
structure Record where
  level : Level
  message : String
deriving DecidableEq

/-- A record as it is written to a log. -/
def Record.display (record : Record) : String := record.level.label ++ " " ++ record.message

end Log

end Backchain
