import SourceConventions.Finding

/-!
# Results for one file
-/

namespace SourceConventions

/-- What the analysis of one file has come to. -/
structure FileResult where
  path : String
  findings : List Finding
  parsed : Bool
  deriving DecidableEq, Repr

/-- Why a file has no findings of its own, with the line to which that refers. -/
structure ParseFault where
  path : String
  line : Nat
  reason : String
  deriving DecidableEq, Repr

namespace ParseFault

def text (f : ParseFault) : String := s!"{f.path}:{f.line}: {f.reason}"

def finding (f : ParseFault) : Finding where
  rule := Rule.parseError.id
  severity := .error
  path := f.path
  line := f.line
  message := f.reason
  column := none
  subject := none
  demoted := false

def result (f : ParseFault) : FileResult := ⟨f.path, [f.finding], false⟩

end ParseFault

end SourceConventions
