/-!
# The log

Rows that tell what the program does, each with a severity and the part of the program that
wrote it.
-/

namespace Cyclometry.Log

/-- The severity of a row. -/
inductive Level
  | debug
  | info
  | warning
  | error
  deriving DecidableEq, Repr

/-- The name of a severity. -/
def Level.name : Level → String
  | debug => "DEBUG"
  | info => "INFO"
  | warning => "WARNING"
  | error => "ERROR"

/-- The order of the severities. -/
def Level.rank : Level → Nat
  | debug => 0
  | info => 1
  | warning => 2
  | error => 3

/-- The part of the program that writes a row. -/
inductive Source
  | grammar
  | compiler
  | calculator
  | eligibility
  | walker
  | results
  | engine
  | report
  deriving DecidableEq, Repr

/-- The name that rows show for their source. -/
def Source.name : Source → String
  | grammar => "cycloscan.frontend.treesitter"
  | compiler => "cycloscan.frontend.libclang"
  | calculator => "cycloscan.analysis.calculator"
  | eligibility => "cycloscan.analysis.eligibility"
  | walker => "cycloscan.analysis.walker"
  | results => "cycloscan.core.results"
  | engine => "cycloscan.core.engine"
  | report => "cycloscan.reporting.report"

/-- A row of the log. -/
structure Row where
  level : Level
  source : Source
  message : String
  deriving DecidableEq, Repr

/-- A row as the terminal shows it. -/
def Row.text (row : Row) : String :=
  row.level.name ++ " " ++ row.source.name ++ ": " ++ row.message

end Cyclometry.Log
