import SourceConventions.Console.Basic
import SourceConventions.Files.Walk
import SourceConventions.Run.Inline
import SourceConventions.Run.Pool
import SourceConventions.Run.Workers

/-!
# A run over a project

The root is checked, the source files below it are worked on, the directories are judged and all
findings are put into one report. A run that has been cancelled has no report.
-/

namespace SourceConventions.Run

inductive RootReason where
  | notDirectory
  | denied
  deriving DecidableEq, Repr

def RootReason.text : RootReason → String
  | .notDirectory => "not an existing directory"
  | .denied => "permission denied"

/-- Why a run has no report. -/
inductive Fault where
  | root (path : String) (reason : RootReason)
  | aborted
  | mishap (m : Mishap)
  deriving Repr

/-- What a run tells while it goes on. -/
inductive Event where
  | notice (n : Notice)
  | log (e : LogEntry)
  deriving DecidableEq, Repr

/-- What a run is given. -/
structure Request where
  tree : FileTree
  root : String
  settings : Settings
  jobs : Option Int
  processors : Nat
  around : Surroundings
  schedule : Schedule
  /-- What becomes of the analysis of the file at a path. -/
  fate : String → Outcome → Outcome

/-- What a run comes to. -/
structure Conclusion where
  events : List Event
  cancelled : Bool
  report : Except Fault Report

/-- The real path of the root. -/
def checkRoot (q : Request) : Except Fault String := do
  let path ← (q.tree.realPath q.root).mapError fun f => .mishap (.unresolved f)
  let asked (answer : Except FileFault Bool) := answer.mapError fun f => Fault.mishap (.file f path)
  if !(← asked (q.tree.isDirectory path)) then .error (.root q.root .notDirectory)
  else if !(← asked (q.tree.isReadable path)) then .error (.root q.root .denied)
  else return path

def excludedLog (path : String) : Event :=
  .log ⟨.debug, .run, s!"Excluded by configuration: {path}"⟩

/-- The source files of a project that are not excluded. -/
def sources (q : Request) (root : String) : Except Fault (List String × List Event) := do
  let (files, logs) ← (q.tree.sources root defaultExcludedNames).mapError fun f =>
    .mishap (.file f root)
  return (files.filter (!q.settings.excludes ·),
    logs.map Event.log ++ (files.filter q.settings.excludes).map excludedLog)

def task (q : Request) (root file : String) : Outcome :=
  q.fate (SourceFile.pathBelow root file) (analyze q.settings q.tree root file)

/-- Works on the files, in a pool if there is more than one worker. -/
def work (q : Request) (root : String) (workers : Nat) (files : List String) : Ending :=
  if workers ≤ 1 then inline q.settings q.around (task q root) 0 files (.start q.around)
  else Pool.run workers q.settings q.around q.schedule (task q root) files (.start q.around)

def startNotice (files workers : Nat) : Event :=
  .notice (.step s!"Analyzing {files} file(s) with {workers} worker(s)")

def endNotice (r : Report) : Event :=
  .notice (.step
    s!"{r.files} file(s) analyzed: {r.errors} error(s), {r.warnings} warning(s)")

def interruptLog : Event := .log ⟨.debug, .run, "Interrupted; discarding partial results"⟩

/-- The findings of a project rule. -/
def projectFindings (s : Settings) (found : DirectorySnapshot) : Rule → List Finding
  | .requiredDirectory => Rules.requiredDirectory s.requiredDirectories found
  | _ => []

/-- The report of a run whose files have been worked on. -/
def conclude (q : Request) (root : String) (p : Progress) :
    Except Fault (Report × List Event) := do
  let (found, logs) ← (q.tree.snapshot root defaultExcludedNames).mapError fun f =>
    .mishap (.file f root)
  let ledger := q.settings.projectRules.foldl
    (fun l rule => l.addProject q.settings (projectFindings q.settings found rule)) p.ledger
  return (ledger.report, logs.map Event.log)

/-- The end of a run after the work on its files; `told` is what has been told so far. -/
def finish (q : Request) (root : String) (told : List Event) (p : Progress) : Conclusion :=
  if p.cancelled || q.around.cancelledAfter then ⟨told, true, .error .aborted⟩
  else
    match conclude q root p with
    | .error f => ⟨told, false, .error f⟩
    | .ok (report, logs) => ⟨told ++ logs ++ [endNotice report], false, .ok report⟩

/-- The root of a run and the source files below it. -/
def start (q : Request) : Except Fault (String × List String × List Event) := do
  let root ← checkRoot q
  return (root, ← sources q root)

def run (q : Request) : Conclusion :=
  match start q with
  | .error f => ⟨[], q.around.cancelledBefore, .error f⟩
  | .ok (root, files, logs) =>
    let workers := workerCount q.processors q.jobs files.length
    let told := logs ++ [startNotice files.length workers]
    let ending := work q root workers files
    let told := told ++ ending.progress.logs.map Event.log
    match ending with
    | .finished p => finish q root told p
    | .interrupted p => finish q root (told ++ [interruptLog]) p.cancel
    | .mishap m p => ⟨told, p.cancelled, .error (.mishap m)⟩
    | .unfinished p => ⟨told, p.cancelled, .error .aborted⟩

/-- What is said about a fault that is foreseen. -/
def Fault.text : Fault → String
  | .root path reason => s!"Cannot analyze '{path}': {reason.text}"
  | .aborted => "Analysis cancelled; no report produced"
  | .mishap m => m.message

end SourceConventions.Run
