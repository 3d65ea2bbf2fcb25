import SourceConventions.Finding
import SourceConventions.Glob
import SourceConventions.Settings.Setting
import SourceConventions.Sorting

/-!
# Settings of a run

Settings are what the rules and the report are steered by. They are made from a table of values by
`Settings.ofTable`; each has a default that holds when its key is absent.
-/

namespace SourceConventions

/-- Verbs that function names start with unless the settings give others. -/
def defaultVerbs : List String := [
  "add", "apply", "build", "calculate", "can", "check", "clear", "close", "collect", "compute",
  "convert", "count", "create", "delete", "do", "emit", "ensure", "evaluate", "execute",
  "extract", "fetch", "filter", "find", "format", "generate", "get", "handle", "has", "init",
  "is", "iter", "leave", "list", "load", "log", "make", "merge", "normalize", "open", "parse",
  "print", "process", "read", "record", "register", "remove", "render", "report", "reset",
  "resolve", "run", "save", "send", "set", "setup", "should", "sort", "start", "stop", "test",
  "to", "update", "validate", "visit", "write"]

def defaultGenericNames : List String := ["data", "info", "obj", "temp", "tmp", "var"]

def defaultRequiredDirectories : List String := ["apps", "utils", "tests", "docs"]

def defaultGenericStatements : Nat := 3

def defaultRetryThreshold : Nat := 2

/-- Where settings come from when no file gives any. -/
def defaultsSource : String := "<defaults>"

structure Settings where
  source : String
  table : SettingTable
  exclude : List String
  /-- Least magnitude of a number that counts when compared with a retry counter. -/
  retryThreshold : Nat
  /-- Most statements of a scope in which generic names are fine. -/
  genericStatements : Nat
  verbs : List String
  genericNames : List String
  requiredDirectories : List String
  allowedNumbers : List Numeral
  /-- Whether only public functions and variables need type annotations. -/
  publicOnly : Bool
  enabled : List (String × Bool)
  severities : List (String × Severity)
  deriving Repr

namespace Settings

/-- A rule is on unless it is turned off. -/
def isEnabled (s : Settings) (rule : String) : Bool :=
  ((s.enabled.find? (·.1 == rule)).map (·.2)).getD true

def severity? (s : Settings) (rule : String) : Option Severity :=
  (s.severities.find? (·.1 == rule)).map (·.2)

def excludes (s : Settings) (path : String) : Bool :=
  s.exclude.any fun glob => Glob.covers glob path

def fileRules (s : Settings) : List Rule := Rule.fileRules.filter fun r => s.isEnabled r.id

def projectRules (s : Settings) : List Rule := Rule.projectRules.filter fun r => s.isEnabled r.id

end Settings

end SourceConventions
