import SourceConventions.Finding

/-!
# Reports

A report is what a run has found, in order, with the number of files that were looked at.
-/

namespace SourceConventions

structure Report where
  findings : List Finding
  files : Nat
  deriving DecidableEq, Repr

namespace Report

def count (r : Report) (s : Severity) : Nat := r.findings.countP (·.severity == s)

def errors (r : Report) : Nat := r.count .error

def warnings (r : Report) : Nat := r.count .warning

def infos (r : Report) : Nat := r.count .info

def hasErrors (r : Report) : Bool := 0 < r.errors

/-- One when there is an error, else zero. -/
def exitCode (r : Report) : Nat := if r.hasErrors then 1 else 0

end Report

end SourceConventions
