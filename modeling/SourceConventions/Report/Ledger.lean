import SourceConventions.FileResult
import SourceConventions.Report.Basic
import SourceConventions.Settings.Basic

/-!
# The ledger of a run

A ledger takes the findings of files and of the project in any order. A report is made of it by
putting the findings in order, each of them once.
-/

namespace SourceConventions

structure Ledger where
  findings : List Finding
  files : Nat
  deriving DecidableEq, Repr

namespace Ledger

def empty : Ledger := ⟨[], 0⟩

/-- A finding as it is reported: with the severity that the settings give its rule, one level less
if it is demoted. Findings of rules that are off are not reported. -/
def settle (s : Settings) (f : Finding) : Option Finding :=
  if s.isEnabled f.rule then
    let severity := (s.severity? f.rule).getD f.severity
    some (f.withSeverity (if f.demoted then severity.lowered else severity))
  else none

/-- Adds what is not there yet. -/
def record (fs : List Finding) (l : Ledger) : Ledger :=
  { l with findings := fs.foldl (fun known f => if f ∈ known then known else f :: known) l.findings }

/-- Adds findings that belong to no file; no glob excludes them. -/
def addProject (s : Settings) (fs : List Finding) (l : Ledger) : Ledger :=
  l.record (fs.filterMap (settle s))

/-- Adds the findings of a file and counts it, unless it is excluded. -/
def addFile (s : Settings) (r : FileResult) (l : Ledger) : Ledger :=
  if s.excludes r.path then l
  else { l.addProject s r.findings with files := l.files + 1 }

def report (l : Ledger) : Report :=
  ⟨Sorting.sort (fun a b => a.key.before b.key) l.findings, l.files⟩

end Ledger

end SourceConventions
