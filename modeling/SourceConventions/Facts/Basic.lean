import SourceConventions.Syntax.Place

/-!
# Facts about a source text

Facts are what the rules judge: the functions that are defined, the variables that are bound, the
literals that are used and the comments that turn rules off.
-/

namespace SourceConventions

open Syntax (Position ScopeKind)

structure ParameterFact where
  name : String
  annotated : Bool
  /-- Whether it stands for the object or the class that the method belongs to. -/
  isReceiver : Bool
  pos : Position
  deriving DecidableEq, Repr

structure FunctionFact where
  name : String
  qualifiedName : String
  isMethod : Bool
  parameters : List ParameterFact
  returns : Option String
  /-- `none` when the verbs cannot judge the name. -/
  startsWithVerb : Option Bool
  isPublic : Bool
  isNested : Bool
  isProperty : Bool
  pos : Position
  deriving DecidableEq, Repr

namespace FunctionFact

/-- The parameters that lack an annotation, receivers left out. -/
def unannotated (f : FunctionFact) : List ParameterFact :=
  f.parameters.filter fun p => !p.annotated && !p.isReceiver

end FunctionFact

/-- How a variable is bound. -/
inductive Binding where
  | assign
  | annotated
  | unpack
  | loop
  | with
  | walrus
  deriving DecidableEq, Repr

def Binding.name : Binding → String
  | .assign => "assign"
  | .annotated => "annotated"
  | .unpack => "unpack"
  | .loop => "loop"
  | .with => "with"
  | .walrus => "walrus"

structure VariableFact where
  name : String
  isConstant : Bool
  declaredType : Option String
  scope : ScopeKind
  scopeName : String
  scopeStatements : Nat
  isTypeAlias : Bool
  binding : Binding
  isPublic : Bool
  pos : Position
  deriving DecidableEq, Repr

/-- What is done with a literal. -/
inductive LiteralContext where
  | comparison
  | arithmetic
  | default
  | other
  deriving DecidableEq, Repr

def LiteralContext.name : LiteralContext → String
  | .comparison => "comparison"
  | .arithmetic => "arithmetic"
  | .default => "default"
  | .other => "other"

inductive LiteralValue where
  | number (value : Numeral)
  | text (value : String)
  deriving DecidableEq, Repr

structure LiteralFact where
  value : LiteralValue
  /-- The function or class in which it stands. -/
  enclosing : String
  /-- Whether it belongs to the definition of a constant. -/
  isNamedConstant : Bool
  context : LiteralContext
  compared : Option String
  pos : Position
  deriving DecidableEq, Repr

/-- Rule ids that are turned off on lines, in ascending order of lines. -/
abbrev Suppressions : Type := List (Nat × List String)

structure Facts where
  functions : List FunctionFact
  bindings : List VariableFact
  literals : List LiteralFact
  suppressions : Suppressions
  deriving DecidableEq, Repr

/-- Why a tree cannot be judged. -/
inductive AnalysisFault where
  /-- An integer has too many digits to be written. -/
  | longInteger
  deriving DecidableEq, Repr

/-- The kind of a fault and what is said about it. -/
def AnalysisFault.parts : AnalysisFault → String × String
  | .longInteger => ("ValueError", Numeral.tooManyDigitsText)

def AnalysisFault.text (f : AnalysisFault) : String := s!"{f.parts.1}: {f.parts.2}"

end SourceConventions
