import SourceConventions.Report.Ledger
import SourceConventions.Run.Task

/-!
# The progress of a run

A run can be cancelled or interrupted from outside at any moment at which it looks up. Results that
come in after that are not kept.
-/

namespace SourceConventions.Run

inductive Disturbance where
  | cancel
  | interrupt
  deriving DecidableEq, Repr

/-- What happens to a run from outside: before it starts, moment by moment while its files are
worked on, and after the last of them. -/
structure Surroundings where
  cancelledBefore : Bool
  during : Nat → Option Disturbance
  cancelledAfter : Bool

def Surroundings.quiet : Surroundings := ⟨false, fun _ => none, false⟩

structure Progress where
  ledger : Ledger
  cancelled : Bool
  logs : List LogEntry
  deriving Repr

namespace Progress

def start (around : Surroundings) : Progress := ⟨.empty, around.cancelledBefore, []⟩

def cancel (p : Progress) : Progress := { p with cancelled := true }

/-- The progress after a disturbance that is no interrupt. -/
def disturbed (p : Progress) : Option Disturbance → Progress
  | some .cancel => p.cancel
  | _ => p

def log (p : Progress) (entries : List LogEntry) : Progress := { p with logs := p.logs ++ entries }

/-- Keeps a result unless the run has been cancelled. -/
def take (s : Settings) (r : FileResult) (p : Progress) : Progress :=
  if p.cancelled then p else { p with ledger := p.ledger.addFile s r }

end Progress

/-- How the work on the files of a run ends. -/
inductive Ending where
  | finished (p : Progress)
  | interrupted (p : Progress)
  | mishap (m : Mishap) (p : Progress)
  /-- There were not enough rounds. -/
  | unfinished (p : Progress)
  deriving Repr

def Ending.progress : Ending → Progress
  | .finished p | .interrupted p | .mishap _ p | .unfinished p => p

end SourceConventions.Run
