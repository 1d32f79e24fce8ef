/-!
# Log lines

The simulator reports what happens in lines of three levels. A log is kept with its latest line
first.
-/

namespace TabDeck

/-- How much a line of the log matters. -/
inductive LogLevel where
  | debug
  | info
  | warn
  deriving DecidableEq, Repr

/-- The name of a level. -/
def LogLevel.name : LogLevel → String
  | .debug => "DEBUG"
  | .info => "INFO"
  | .warn => "WARN"

/-- A line of the log. -/
structure LogLine where
  level : LogLevel
  message : String
  deriving DecidableEq, Repr

/-- The text of a line. -/
def LogLine.text (line : LogLine) : String := s!"{line.level.name} {line.message}"

end TabDeck
