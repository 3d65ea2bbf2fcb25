import SourceConventions.Run.Execution

/-!
# Runs that lose a worker

When a worker of a pool dies, the pool is broken. Files in flight whose analysis has not come to its
end are lost, and no other file can be handed out.
-/

namespace SourceConventions.Run

/-- What is so when a worker dies: how many files have been handed out, and of which of them the
analysis has come to its end. -/
structure Death where
  handedOut : Nat
  ended : String → Bool

namespace Death

/-- What becomes of a file in flight. -/
def lost : Mishap :=
  .brokenPool
    "A process in the process pool was terminated abruptly while the future was running or pending."

/-- What becomes of handing out another file. -/
def closed : Mishap :=
  .brokenPool "A child process terminated abruptly, the process pool is not usable anymore"

def outcome (d : Death) (task : String → Outcome) (file : String) : Outcome :=
  if d.ended file then task file else .mishap lost

end Death

namespace Pool

/-- Hands out waiting files as `fill` does, as long as no worker has died. -/
def fillUntil (d : Death) (limit : Nat) (around : Surroundings) : List String → Pool → Ending ⊕ Pool
  | [], p =>
    let (interrupted, p) := p.look around
    if interrupted then .inl (.interrupted p.progress) else .inr { p with waiting := [] }
  | file :: rest, p =>
    let (interrupted, p) := p.look around
    if interrupted then .inl (.interrupted p.progress)
    else if p.progress.cancelled || limit ≤ p.inFlight.length then
      .inr { p with waiting := file :: rest }
    else if d.handedOut ≤ p.submitted.length then .inl (.mishap Death.closed p.progress)
    else
      fillUntil d limit around rest
        { p with inFlight := p.inFlight ++ [file], submitted := file :: p.submitted }

def roundUntil (d : Death) (limit : Nat) (s : Settings) (around : Surroundings) (sch : Schedule)
    (task : String → Outcome) (n : Nat) (p : Pool) : Ending ⊕ Pool :=
  match fillUntil d limit around p.waiting p with
  | .inl ending => .inl ending
  | .inr p =>
    if p.inFlight.isEmpty then .inl (.finished p.progress)
    else
      let (interrupted, p) := p.look around
      if interrupted then .inl (.interrupted p.progress)
      else
        let (interrupted, p) := collect s around (d.outcome task) (sch.pick n p.inFlight) p
        if interrupted then .inl (.interrupted p.progress) else .inr p

def roundsUntil (d : Death) (limit : Nat) (s : Settings) (around : Surroundings) (sch : Schedule)
    (task : String → Outcome) : Nat → Nat → Pool → Ending
  | 0, _, p => .unfinished p.progress
  | fuel + 1, n, p =>
    match roundUntil d limit s around sch task n p with
    | .inl ending => ending
    | .inr p => roundsUntil d limit s around sch task fuel (n + 1) p

/-- Works on files with a number of workers, one of which dies. -/
def runUntil (d : Death) (workers : Nat) (s : Settings) (around : Surroundings) (sch : Schedule)
    (task : String → Outcome) (files : List String) (p : Progress) : Ending :=
  roundsUntil d (workers * inFlightPerWorker) s around sch task (files.length + 1) 0
    (start files (p.log [startLog workers]))

end Pool

/-- Works on the files as `work` does; one worker alone is not in a pool. -/
def workUntil (d : Death) (q : Request) (root : String) (workers : Nat) (files : List String) :
    Ending :=
  if workers ≤ 1 then work q root workers files
  else Pool.runUntil d workers q.settings q.around q.schedule (task q root) files (.start q.around)

/-- A run in which a worker dies. -/
def runUntil (d : Death) (q : Request) : Conclusion :=
  match start q with
  | .error f => ⟨[], q.around.cancelledBefore, .error f⟩
  | .ok (root, files, logs) =>
    let workers := workerCount q.processors q.jobs files.length
    let told := logs ++ [startNotice files.length workers]
    let ending := workUntil d q root workers files
    let told := told ++ ending.progress.logs.map Event.log
    match ending with
    | .finished p => finish q root told p
    | .interrupted p => finish q root (told ++ [interruptLog]) p.cancel
    | .mishap m p => ⟨told, p.cancelled, .error (.mishap m)⟩
    | .unfinished p => ⟨told, p.cancelled, .error .aborted⟩

end SourceConventions.Run
