import SourceConventions.Analysis
import SourceConventions.Files.Source

/-!
# One file of a run
-/

namespace SourceConventions.Run

/-- What the analysis of one file ends in. -/
inductive Outcome where
  | result (r : FileResult) (logs : List LogEntry)
  | mishap (m : Mishap)
  | interrupted
  deriving Repr

/-- Analyses a file below a root. -/
def analyze (s : Settings) (t : FileTree) (root path : String) : Outcome :=
  match SourceFile.read t (SourceFile.pathBelow root path) with
  | .error (.fault f) =>
    let (result, logs) := Analysis.failure ⟨path, 0, f.text⟩ []
    .result result logs
  | .error (.mishap m) => .mishap m
  | .ok text =>
    match Analysis.named? s path (SourceFile.namesakeLines t path) text with
    | .error f => .mishap (.nameless f)
    | .ok (result, logs) => .result result logs

end SourceConventions.Run
