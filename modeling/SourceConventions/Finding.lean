import SourceConventions.Rule

/-!
# Findings

A finding is one deviation from a rule at one place of one file.
-/

namespace SourceConventions

structure Finding where
  rule : String
  severity : Severity
  path : String
  line : Int
  message : String
  column : Option Int
  subject : Option String
  /-- Reported one level below the severity that the rule has in the end. -/
  demoted : Bool
  deriving DecidableEq, Repr

namespace Finding

/-- Path, line and, if there is one, column, between colons. -/
def location (f : Finding) : String :=
  match f.column with
  | none => s!"{f.path}:{f.line}"
  | some c => s!"{f.path}:{f.line}:{c}"

/-- What findings are ordered by, most important first. -/
structure Key where
  path : String
  line : Int
  rule : String
  column : Int
  message : String
  subject : String
  deriving DecidableEq, Repr

def key (f : Finding) : Key where
  path := f.path
  line := f.line
  rule := f.rule
  column := f.column.getD (-1)
  message := f.message
  subject := f.subject.getD ""

/-- The lexicographic order of keys. -/
def Key.before (a b : Key) : Bool :=
  if a.path ≠ b.path then a.path < b.path
  else if a.line ≠ b.line then a.line < b.line
  else if a.rule ≠ b.rule then a.rule < b.rule
  else if a.column ≠ b.column then a.column < b.column
  else if a.message ≠ b.message then a.message < b.message
  else a.subject < b.subject

def withSeverity (f : Finding) (s : Severity) : Finding :=
  { f with severity := s, demoted := false }

end Finding

end SourceConventions
