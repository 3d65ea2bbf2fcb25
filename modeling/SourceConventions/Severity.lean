import SourceConventions.Text.Casing

/-!
# Severities
-/

namespace SourceConventions

inductive Severity where
  | error
  | warning
  | info
  deriving DecidableEq, Repr, Inhabited

namespace Severity

def all : List Severity := [.error, .warning, .info]

def name : Severity → String
  | .error => "error"
  | .warning => "warning"
  | .info => "info"

def ofName? (s : String) : Option Severity := all.find? (·.name == s)

/-- The severity of that name, whatever the case of its letters. -/
def ofText? (s : String) : Option Severity := ofName? (Text.lowered s)

/-- The next lower severity; `info` is the least. -/
def lowered : Severity → Severity
  | .error => .warning
  | _ => .info

theorem ofName?_name (s : Severity) : ofName? s.name = some s := by
  cases s <;> decide

end Severity

end SourceConventions
