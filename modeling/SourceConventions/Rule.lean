import SourceConventions.Severity

/-!
# The rules and what is told about them
-/

namespace SourceConventions

/-- What a rule looks at: one file, the directories of a project, or the run itself. -/
inductive RuleScope where
  | file
  | project
  | run
  deriving DecidableEq, Repr

def RuleScope.name : RuleScope → String
  | .file => "file"
  | .project => "project"
  | .run => "run"

inductive Rule where
  | snakeCase
  | verbPrefix
  | genericName
  | magicNumber
  | missingHint
  | requiredDirectory
  | parseError
  deriving DecidableEq, Repr

namespace Rule

def all : List Rule :=
  [.snakeCase, .verbPrefix, .genericName, .magicNumber, .missingHint, .requiredDirectory,
    .parseError]

def id : Rule → String
  | .snakeCase => "naming.snake_case"
  | .verbPrefix => "naming.verb_prefix"
  | .genericName => "naming.generic_name"
  | .magicNumber => "magic-number.undeclared"
  | .missingHint => "typing.missing-hint"
  | .requiredDirectory => "layout.required-dir"
  | .parseError => "parse.error"

def ofId? (s : String) : Option Rule := all.find? (·.id == s)

def defaultSeverity : Rule → Severity
  | .snakeCase | .verbPrefix | .genericName | .missingHint => .warning
  | .magicNumber | .requiredDirectory | .parseError => .error

def scope : Rule → RuleScope
  | .requiredDirectory => .project
  | .parseError => .run
  | _ => .file

def description : Rule → String
  | .snakeCase => "Function, method, parameter and variable names must be snake_case."
  | .verbPrefix =>
    "Function and method names should start with a verb (get_, create_, process_, ...)."
  | .genericName => "Avoid generic variable names (data, info, tmp, ...) outside tiny scopes."
  | .magicNumber => "Numeric literals in logic must be bound to a named UPPER_SNAKE_CASE constant."
  | .missingHint => "Public functions and module/class variables must carry type annotations."
  | .requiredDirectory =>
    "Project root must contain the required directories (apps/, utils/, tests/, docs/)."
  | .parseError => "Every analysed file must be readable and syntactically valid."

/-- The message number and name under which a host linter shows a file rule. -/
def hostMessage? : Rule → Option (String × String)
  | .snakeCase => some ("C9101", "convention-snake-case")
  | .verbPrefix => some ("C9102", "convention-verb-prefix")
  | .genericName => some ("C9103", "convention-generic-name")
  | .magicNumber => some ("C9104", "convention-magic-number")
  | .missingHint => some ("C9105", "convention-missing-hint")
  | .requiredDirectory | .parseError => none

def fileRules : List Rule := all.filter (·.scope = .file)

def projectRules : List Rule := all.filter (·.scope = .project)

theorem mem_all (r : Rule) : r ∈ all := by
  cases r <;> decide

theorem id_injective {r s : Rule} (h : r.id = s.id) : r = s := by
  cases r <;> cases s <;> first | rfl | exact absurd h (by decide)

theorem ofId?_id (r : Rule) : ofId? r.id = some r := by
  cases r <;> decide

end Rule

end SourceConventions
