import SourceConventions.Facts.Basic
import SourceConventions.Finding
import SourceConventions.Name

/-!
# Rules about names
-/

namespace SourceConventions.Rules

open Syntax (Position)

/-- A finding of a rule with its default severity at a position of a file. -/
def finding (rule : Rule) (path : String) (pos : Position) (subject message : String) : Finding where
  rule := rule.id
  severity := rule.defaultSeverity
  path
  line := pos.line
  message
  column := some (pos.column : Int)
  subject := some subject
  demoted := false

/-! ### Snake case -/

/-- Whether the name of a function may not be what it is. -/
def isMisnamedFunction (f : FunctionFact) : Bool :=
  !Name.isDunder f.name && !Name.isSnakeCase f.name

def isMisnamedParameter (p : ParameterFact) : Bool := !p.isReceiver && !Name.isSnakeCase p.name

def isMisnamedVariable (v : VariableFact) : Bool :=
  !(Name.isDunder v.name || v.isTypeAlias || v.isConstant) && !Name.isSnakeCase v.name

def snakeCaseFunction (path : String) (f : FunctionFact) : List Finding :=
  let kind := if f.isMethod then "Method" else "Function"
  (if isMisnamedFunction f then
    [finding .snakeCase path f.pos f.name s!"{kind} name '{f.name}' is not snake_case"]
  else [])
  ++ (f.parameters.filter isMisnamedParameter).map fun p =>
    finding .snakeCase path p.pos p.name
      s!"Parameter '{p.name}' of '{f.qualifiedName}' is not snake_case"

def snakeCase (path : String) (facts : Facts) : List Finding :=
  facts.functions.flatMap (snakeCaseFunction path)
    ++ (facts.bindings.filter isMisnamedVariable).map fun v =>
      finding .snakeCase path v.pos v.name
        (s!"Variable name '{v.name}' is not snake_case "
          ++ "(use UPPER_SNAKE_CASE only for constants)")

/-! ### Verbs -/

/-- Findings about private names are reported one level below the others. -/
def verbPrefix (path : String) (facts : Facts) : List Finding :=
  (facts.functions.filter (·.startsWithVerb = some false)).map fun f =>
    { finding .verbPrefix path f.pos f.name
        (s!"Name '{f.name}' should start with a verb; "
          ++ s!"'{Name.firstWord f.name}' is not in the verb lexicon") with
      demoted := Name.isPrivate f.name }

/-! ### Generic names -/

/-- What a variable is known by: the name of its scope and its own. -/
def scopeKey (v : VariableFact) : String × String := (v.scopeName, v.name)

/-- The first variable of each key. -/
def firstOfKey (vs : List VariableFact) : List VariableFact :=
  go [] vs
where
  go (seen : List (String × String)) : List VariableFact → List VariableFact
    | [] => []
    | v :: rest =>
      if seen.contains (scopeKey v) then go seen rest
      else v :: go (scopeKey v :: seen) rest

def isGeneric (names : List String) (maxStatements : Nat) (v : VariableFact) : Bool :=
  names.contains v.name && v.scope ≠ .comprehension && maxStatements < v.scopeStatements

def genericName (names : List String) (maxStatements : Nat) (path : String) (facts : Facts) :
    List Finding :=
  (firstOfKey (facts.bindings.filter (isGeneric names maxStatements))).map fun v =>
    finding .genericName path v.pos v.name
      (s!"Generic variable name '{v.name}' in {v.scopeName} "
        ++ s!"({v.scopeStatements} statements); use a descriptive name")

end SourceConventions.Rules
