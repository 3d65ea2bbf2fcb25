import SourceConventions.Run.Progress

/-!
# A pool of workers

Files are handed to workers, at most two of them for each worker at a time. Whenever one or more
workers have ended, their results are taken in and more files are handed out. In which order workers
end is up to a schedule.
-/

namespace SourceConventions.Run

/-- Which of the files in flight have ended, and in what order, at each wait. -/
abbrev Schedule := Nat → List String → List String

/-- All workers end together. -/
def Schedule.together : Schedule := fun _ inFlight => inFlight

/-- The files that a wait hands back: those of the schedule that are in flight, or the first one if
there is none. -/
def Schedule.pick (sch : Schedule) (n : Nat) (inFlight : List String) : List String :=
  match Sorting.distinct ((sch n inFlight).filter (inFlight.contains ·)) with
  | [] => inFlight.take 1
  | files => files

/-- Files that each worker may have in flight. -/
def inFlightPerWorker : Nat := 2

structure Pool where
  waiting : List String
  inFlight : List String
  /-- The files that have been handed out, the last one first. -/
  submitted : List String
  /-- The number of times that the run has looked up. -/
  moment : Nat
  progress : Progress
  deriving Repr

namespace Pool

def start (files : List String) (p : Progress) : Pool := ⟨files, [], [], 0, p⟩

/-- Looks up once; the answer tells whether there is an interrupt. -/
def look (around : Surroundings) (p : Pool) : Bool × Pool :=
  let seen := around.during p.moment
  (seen == some .interrupt,
    { p with moment := p.moment + 1, progress := p.progress.disturbed seen })

/-- Hands out waiting files until the limit is reached or the run is cancelled. The answer tells
whether there was an interrupt. -/
def fill (limit : Nat) (around : Surroundings) : List String → Pool → Bool × Pool
  | [], p =>
    let (interrupted, p) := p.look around
    (interrupted, { p with waiting := [] })
  | file :: rest, p =>
    let (interrupted, p) := p.look around
    if interrupted then (true, { p with waiting := file :: rest })
    else if p.progress.cancelled || limit ≤ p.inFlight.length then
      (false, { p with waiting := file :: rest })
    else
      fill limit around rest
        { p with inFlight := p.inFlight ++ [file], submitted := file :: p.submitted }

/-- What comes back from the worker of a file. A mishap counts as a finding of that file; an
interrupt does not come back. What a worker logs stays with it. -/
def received? (file : String) : Outcome → Option (FileResult × List LogEntry)
  | .result r _ => some (r, [])
  | .mishap m =>
    some (Analysis.failure (Analysis.internalFault file m.text) [Analysis.internalLog file m.text])
  | .interrupted => none

/-- Takes in the results of files that have ended. The answer tells whether there was an
interrupt. -/
def collect (s : Settings) (around : Surroundings) (task : String → Outcome) :
    List String → Pool → Bool × Pool
  | [], p => (false, p)
  | file :: rest, p =>
    let p := { p with inFlight := p.inFlight.erase file }
    match received? file (task file) with
    | none => (true, p)
    | some (r, logs) =>
      let (interrupted, p) := p.look around
      if interrupted then (true, p)
      else collect s around task rest { p with progress := (p.progress.log logs).take s r }

/-- One round: hand out files, wait, take in results. The work ends when nothing is in flight. -/
def round (limit : Nat) (s : Settings) (around : Surroundings) (sch : Schedule)
    (task : String → Outcome) (n : Nat) (p : Pool) : Ending ⊕ Pool :=
  let (interrupted, p) := fill limit around p.waiting p
  if interrupted then .inl (.interrupted p.progress)
  else if p.inFlight.isEmpty then .inl (.finished p.progress)
  else
    let (interrupted, p) := p.look around
    if interrupted then .inl (.interrupted p.progress)
    else
      let (interrupted, p) := collect s around task (sch.pick n p.inFlight) p
      if interrupted then .inl (.interrupted p.progress) else .inr p

def rounds (limit : Nat) (s : Settings) (around : Surroundings) (sch : Schedule)
    (task : String → Outcome) : Nat → Nat → Pool → Ending
  | 0, _, p => .unfinished p.progress
  | fuel + 1, n, p =>
    match round limit s around sch task n p with
    | .inl ending => ending
    | .inr p => rounds limit s around sch task fuel (n + 1) p

def startLog (workers : Nat) : LogEntry :=
  ⟨.debug, .run, s!"Starting process pool with {workers} workers"⟩

/-- Works on files with a number of workers. Every round but the last one takes in a result. -/
def run (workers : Nat) (s : Settings) (around : Surroundings) (sch : Schedule)
    (task : String → Outcome) (files : List String) (p : Progress) : Ending :=
  rounds (workers * inFlightPerWorker) s around sch task (files.length + 1) 0
    (start files (p.log [startLog workers]))

end Pool

end SourceConventions.Run
