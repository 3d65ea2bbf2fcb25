import SourceConventions.Text.Blank

/-!
# Arguments of the command line

Options may stand in front of, between and behind other arguments. Short ones can be joined, and the
value of an option follows it, at once or as the next argument. All behind two hyphens is no option.
-/

namespace SourceConventions.Command

inductive OptionName where
  | config
  | format
  | jobs
  | output
  | quiet
  | verbose
  | help
  deriving DecidableEq, Repr

/-- An option with its long name, its letter and whether it has a value. -/
structure OptionSpec where
  name : OptionName
  long : String
  letter : Char
  hasValue : Bool
  deriving DecidableEq, Repr

/-- Why arguments are refused. -/
inductive UsageFault where
  | noCommand
  | unknownCommand (name : String)
  | unknownOption (text : String)
  | missingValue (option : OptionName)
  | uncalledValue (option : OptionName)
  | extraArgument (text : String)
  | notCount (text : String)
  | nullInPath
  deriving DecidableEq, Repr

def configSpec : OptionSpec := ⟨.config, "config", 'c', true⟩

/-- The options of a check that have a letter. -/
def checkSpecs : List OptionSpec :=
  [configSpec, ⟨.format, "format", 'f', true⟩, ⟨.jobs, "jobs", 'j', true⟩,
    ⟨.output, "output", 'o', true⟩, ⟨.quiet, "quiet", 'q', false⟩,
    ⟨.verbose, "verbose", 'v', false⟩]

def rulesSpecs : List OptionSpec := [configSpec]

/-- An option that was given, with its value if it has one. -/
structure Given where
  name : OptionName
  value : String
  deriving DecidableEq, Repr

/-- What options and other arguments have been found. -/
structure Parsed where
  given : List Given
  others : List String
  deriving DecidableEq, Repr

/-- Options that stand in one argument; the last one may ask for the next argument. -/
structure Cluster where
  given : List Given
  asking : Option OptionName
  deriving DecidableEq, Repr

def helpName : String := "help"

/-- What a long option gives, behind its hyphens. -/
def longOption (specs : List OptionSpec) (body : List Char) : Except UsageFault Cluster :=
  let name := String.ofList (body.takeWhile (· != '='))
  let value := (body.dropWhile (· != '=')).drop 1
  let hasValue := body.contains '='
  match specs.find? (·.long == name) with
  | some spec =>
    if spec.hasValue then
      if hasValue then .ok ⟨[⟨spec.name, String.ofList value⟩], none⟩
      else .ok ⟨[], some spec.name⟩
    else if hasValue then .error (.uncalledValue spec.name)
    else .ok ⟨[⟨spec.name, ""⟩], none⟩
  | none =>
    if name == helpName then
      if hasValue then .error (.uncalledValue .help) else .ok ⟨[⟨.help, ""⟩], none⟩
    else .error (.unknownOption name)

/-- What joined letters give. The rest behind the letter of an option with a value is its value. -/
def letters (specs : List OptionSpec) : List Char → Except UsageFault Cluster
  | [] => .ok ⟨[], none⟩
  | c :: rest =>
    match specs.find? (·.letter == c) with
    | none => .error (.unknownOption (String.singleton c))
    | some spec =>
      if spec.hasValue then
        if rest.isEmpty then .ok ⟨[], some spec.name⟩
        else .ok ⟨[⟨spec.name, String.ofList rest⟩], none⟩
      else (letters specs rest).map fun cluster =>
        { cluster with given := ⟨spec.name, ""⟩ :: cluster.given }

/-- What an argument gives if it is an option. -/
def cluster? (specs : List OptionSpec) (arg : String) : Option (Except UsageFault Cluster) :=
  match arg.toList with
  | '-' :: '-' :: body => some (longOption specs body)
  | '-' :: c :: rest => some (letters specs (c :: rest))
  | _ => none

def Parsed.add (given : List Given) (p : Parsed) : Parsed := { p with given := given ++ p.given }

/-- Tells options from other arguments. -/
def parse (specs : List OptionSpec) : List String → Except UsageFault Parsed
  | [] => .ok ⟨[], []⟩
  | arg :: rest =>
    if arg == "--" then .ok ⟨[], rest⟩
    else
      match cluster? specs arg with
      | none => (parse specs rest).map fun p => { p with others := arg :: p.others }
      | some (.error f) => .error f
      | some (.ok ⟨given, none⟩) => (parse specs rest).map (·.add given)
      | some (.ok ⟨given, some name⟩) =>
        match rest with
        | [] => .error (.missingValue name)
        | value :: rest => (parse specs rest).map (·.add (given ++ [⟨name, value⟩]))

/-- The value of the last option of a name. -/
def Parsed.value? (p : Parsed) (name : OptionName) : Option String :=
  (p.given.reverse.find? (·.name == name)).map (·.value)

def Parsed.has (p : Parsed) (name : OptionName) : Bool := (p.value? name).isSome

/-- The value of digits; an underscore may stand between two of them. -/
def digitsValue? (last : Bool) (n : Nat) : List Char → Option Nat
  | [] => if last then some n else none
  | '_' :: rest => if last then digitsValue? false n rest else none
  | c :: rest => if c.isDigit then digitsValue? true (n * 10 + (c.toNat - '0'.toNat)) rest else none

/-- A positive number with blanks around it and perhaps a plus sign. -/
def count? (s : String) : Option Nat :=
  let cs := Text.trimBlanks s.toList
  let digits := match cs with | '+' :: rest => rest | _ => cs
  (digitsValue? false 0 digits).filter (0 < ·)

/-- A text that can be a path. -/
def pathOf (s : String) : Except UsageFault String :=
  if s.toList.contains '\x00' then .error .nullInPath else .ok s

/-- What a check is asked for. -/
structure CheckOptions where
  root : String
  config : Option String
  format : String
  jobs : Option Nat
  output : Option String
  quiet : Bool
  verbose : Bool
  deriving DecidableEq, Repr

inductive Invocation where
  | help
  | check (options : CheckOptions)
  | rules (config : Option String)
  deriving DecidableEq, Repr

/-- The value of an option that is a path. -/
def path? (p : Parsed) (name : OptionName) : Except UsageFault (Option String) :=
  match p.value? name with
  | none => .ok none
  | some s => (pathOf s).map some

def jobs? (p : Parsed) : Except UsageFault (Option Nat) :=
  match p.value? .jobs with
  | none => .ok none
  | some s =>
    match count? s with
    | some n => .ok (some n)
    | none => .error (.notCount s)

def checkOf (p : Parsed) : Except UsageFault CheckOptions := do
  let root ← pathOf (p.others.headD ".")
  let config ← path? p .config
  let jobs ← jobs? p
  let output ← path? p .output
  match p.others.drop 1 with
  | extra :: _ => .error (.extraArgument extra)
  | [] =>
    return { root, config, format := (p.value? .format).getD "text", jobs, output
             quiet := p.has .quiet, verbose := p.has .verbose }

def rulesOf (p : Parsed) : Except UsageFault (Option String) :=
  match p.others with
  | extra :: _ => .error (.extraArgument extra)
  | [] => path? p .config

/-- Reads the arguments of a command. -/
def ofCommand (name : String) (args : List String) : Except UsageFault Invocation := do
  match name with
  | "check" =>
    let p ← parse checkSpecs args
    if p.has .help then return .help else return .check (← checkOf p)
  | "rules" =>
    let p ← parse rulesSpecs args
    if p.has .help then return .help else return .rules (← rulesOf p)
  | _ => .error (.unknownCommand name)

/-- Reads the command and its arguments. Options in front of the command are its own. -/
def ofArguments : List String → Except UsageFault Invocation
  | [] => .error .noCommand
  | "--" :: rest =>
    match rest with
    | [] => .error .noCommand
    | name :: rest => ofCommand name rest
  | arg :: rest =>
    match cluster? [] arg with
    | some (.error f) => .error f
    | some (.ok _) => .ok .help
    | none => ofCommand arg rest

end SourceConventions.Command
