/-!
# The number of workers
-/

namespace SourceConventions.Run

/-- As many workers as are asked for, but no more than there are files and at least one. Without a
positive number of jobs there is one worker for each processor. -/
def workerCount (processors : Nat) (jobs : Option Int) (files : Int) : Nat :=
  let wanted : Int :=
    match jobs with
    | some n => if 0 < n then n else processors
    | none => processors
  (max 1 (min wanted files)).toNat

end SourceConventions.Run
