import SourceConventions.Command.Arguments
import SourceConventions.Files.Writing
import SourceConventions.Report.Format
import SourceConventions.Report.RuleTable
import SourceConventions.Run.Execution
import SourceConventions.Settings.Load

/-!
# What the command line answers

A check exits with the code of its report once that has been delivered. Whatever else is foreseen
ends with the code for fatal faults and delivers nothing.
-/

namespace SourceConventions.Command

open Run

def fatalCode : Nat := 2

/-- The code of a program that has ended in a mishap. -/
def mishapCode : Nat := 1

structure Response where
  exitCode : Nat
  output : String
  events : List Event
  /-- The table of rules, if it is asked for. -/
  table : String
  mishap : Option Mishap
  tree : FileTree
  console : Console
  /-- The least level of what is logged. -/
  level : LogLevel

/-- What the command line finds around it. -/
structure Environment where
  tree : FileTree
  processors : Nat
  /-- What comes from outside to a run that is asked for. -/
  meet : Request → Request

def error (message : String) : Event := .notice (.error message)

/-- A finding about the settings, on one line. -/
def faultLine (f : Finding) : String := s!"{f.path}: [{f.severity.name}] {f.rule}: {f.message}"

namespace Response

/-- The answer to arguments that are refused, or that ask for help. -/
def silent (env : Environment) (code : Nat) : Response :=
  ⟨code, "", [], "", none, env.tree, .standard, .warning⟩

def fatal (r : Response) (events : List Event) : Response :=
  { r with exitCode := fatalCode, events := r.events ++ events }

def crash (r : Response) (m : Mishap) : Response :=
  { r with exitCode := mishapCode, mishap := some m }

def tell (r : Response) (events : List Event) : Response := { r with events := r.events ++ events }

/-- What settings that cannot be loaded end in. -/
def unsettled (r : Response) : LoadFault → Response
  | .mishap m => r.crash m
  | f => r.fatal (error f.text :: f.findings.map fun v => error (faultLine v))

/-- Delivers a report, to a file if one is named. -/
def deliver (r : Response) (output : Option String) (format : ReportFormat) (report : Report) :
    Response :=
  let text := format.render report
  match output with
  | none => { r with exitCode := report.exitCode, output := text }
  | some path =>
    let path := (Path.ofString path).text
    let (tree, mishap) := r.tree.writeText path "utf-8" text
    let r := { r with tree }
    match mishap with
    | some m => r.crash m
    | none => { r.tell [.notice (.step s!"Report written to {path}")] with exitCode := report.exitCode }

end Response

def request (env : Environment) (o : CheckOptions) (s : Settings) : Request :=
  env.meet { tree := env.tree, root := (Path.ofString o.root).text, settings := s
             jobs := o.jobs.map Int.ofNat, processors := env.processors, around := .quiet
             schedule := .together, fate := fun _ o => o }

/-- The answer to a check whose format is known and whose settings are loaded. -/
def checkWith (env : Environment) (o : CheckOptions) (format : ReportFormat) (s : Settings)
    (r : Response) : Response :=
  let conclusion := Run.run (request env o s)
  let r := r.tell conclusion.events
  match conclusion.report with
  | .error (.mishap m) => r.crash m
  | .error f => r.fatal [error f.text]
  | .ok report => r.deliver o.output format report

def check (env : Environment) (o : CheckOptions) : Response :=
  let r : Response :=
    { Response.silent env 0 with
      events := [.notice .greeting]
      console := { Console.standard with quiet := o.quiet }
      level := if o.verbose then .debug else .warning }
  match ReportFormat.ofName? o.format with
  | .error f => r.fatal [error f.text]
  | .ok format =>
    let (logs, settings) := Settings.load env.tree (o.config.map fun c => (Path.ofString c).text)
      (Path.ofString o.root).text
    let r := r.tell (logs.map Event.log)
    match settings with
    | .error f => r.unsettled f
    | .ok s => checkWith env o format s r

def rules (env : Environment) (config : Option String) : Response :=
  let (logs, settings) := Settings.load env.tree (config.map fun c => (Path.ofString c).text) "."
  let r := (Response.silent env 0).tell (logs.map Event.log)
  match settings with
  | .error f => r.unsettled f
  | .ok s => { r with table := RuleTable.text s }

def respond (env : Environment) (args : List String) : Response :=
  match ofArguments args with
  | .error _ => .silent env fatalCode
  | .ok .help => .silent env 0
  | .ok (.check o) => check env o
  | .ok (.rules config) => rules env config

namespace Response

/-- What is printed beside the output. A text that would be no markup is left out. -/
def notices (r : Response) : String :=
  String.join (r.events.map fun
    | .notice n => (r.console.printed n).toOption.getD ""
    | .log _ => "")

/-- What is logged at the level of the response. -/
def logs (r : Response) : List LogEntry :=
  LogEntry.atLeast r.level (r.events.flatMap fun
    | .notice n => r.console.logged n
    | .log e => [e])

end Response

end SourceConventions.Command
