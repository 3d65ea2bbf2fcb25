/-!
# Log entries
-/

namespace SourceConventions

inductive LogLevel where
  | debug
  | info
  | warning
  | error
  deriving DecidableEq, Repr

namespace LogLevel

def name : LogLevel → String
  | .debug => "DEBUG"
  | .info => "INFO"
  | .warning => "WARNING"
  | .error => "ERROR"

def rank : LogLevel → Nat
  | .debug => 10
  | .info => 20
  | .warning => 30
  | .error => 40

end LogLevel

/-- The parts of the program that write log entries. -/
inductive LogSource where
  | settings
  | discovery
  | parsing
  | files
  | comments
  | analysis
  | report
  | run
  | console (project : String)
  deriving DecidableEq, Repr

/-- The names under which log entries are shown and can be selected. -/
def LogSource.name : LogSource → String
  | .settings => "convention_linter.domain.config"
  | .discovery => "convention_linter.infrastructure.config_file_loader"
  | .parsing => "convention_linter.infrastructure.gateways.astroid_gateway"
  | .files => "convention_linter.infrastructure.gateways.filesystem_gateway"
  | .comments => "convention_linter.domain.services.symbol_classifier"
  | .analysis => "convention_linter.use_cases.analyze_source"
  | .report => "convention_linter.domain.services.report_aggregator"
  | .run => "convention_linter.use_cases.check_conventions"
  | .console project => project

structure LogEntry where
  level : LogLevel
  source : LogSource
  message : String
  deriving DecidableEq, Repr

namespace LogEntry

def text (e : LogEntry) : String := s!"{e.level.name} {e.source.name}: {e.message}"

/-- The entries of a level and above. -/
def atLeast (level : LogLevel) (entries : List LogEntry) : List LogEntry :=
  entries.filter fun e => level.rank ≤ e.level.rank

end LogEntry

end SourceConventions
