import SourceConventions.Facts.Function
import SourceConventions.Syntax.StatementCount

/-!
# Facts about variables
-/

namespace SourceConventions

open Syntax

/-- What is called to make a type. -/
def typeFactories : List String :=
  ["TypeVar", "NewType", "NamedTuple", "namedtuple", "TypedDict", "ParamSpec", "TypeAlias"]

namespace VariableFact

/-- What several targets stand in. -/
def isUnpacking : Node → Bool
  | .expr e => match e.kind with
    | .tuple | .list | .starred => true
    | _ => false
  | .stmt _ => false

/-- How a name below some nodes is bound, and the node that binds it. -/
def binding? (above : List Node) : Option (Binding × Node) :=
  let unpacked := above.head?.any isUnpacking
  match above.find? (!isUnpacking ·) with
  | none => none
  | some n =>
    match n with
    | .stmt s => match s.kind with
      | .assign => some (if unpacked then .unpack else .assign, n)
      | .annotatedAssign => some (.annotated, n)
      | .forLoop _ => some (.loop, n)
      | .withBlock _ => some (.with, n)
      | _ => none
    | .expr e => match e.kind with
      | .clause _ => some (.loop, n)
      | .walrus => some (.walrus, n)
      | _ => none

def value? : Node → Option Expr
  | .stmt s => s.part? .value
  | .expr e => e.child? .value

def hint? : Node → Option Expr
  | .stmt s => s.part? .hint
  | .expr _ => none

/-- The name of a name or an attribute. -/
def simpleName? (e : Expr) : Option String :=
  match e.kind with
  | .name n | .attribute n => some n
  | _ => none

/-- Whether a value that is bound to a name makes the name one of a type. -/
def isTypeValue (name : String) (e : Expr) : Bool :=
  match e.kind with
  | .call =>
    ((e.child? .function).bind simpleName?).any typeFactories.contains
      && (Name.isCapWords name || Name.isConstant name)
  | .subscript | .binary .bitOr => Name.isCapWords name
  | .name n | .attribute n => Name.isCapWords name && Name.isCapWords n
  | _ => false

def typeAliasEnding : String := "TypeAlias"

/-- Whether a binding at the top of a module declares a type. -/
def declaresType (name : String) (declared : Option String) (value : Option Expr) : Bool :=
  declared.any (fun d => typeAliasEnding.toList.isSuffixOf d.toList)
    || value.any (isTypeValue name)

/-- The number of statements in a scope; a scope without blocks counts as one. -/
def statementsIn : Node → Nat
  | .stmt s => s.count
  | .expr _ => 1

/-- The fact about the name that is bound below some nodes, if a variable is bound. -/
def ofBinding? (name : String) (pos : Position) (above : List Node) :
    Option (Except AnalysisFault VariableFact) :=
  match binding? above, scopesAmong above with
  | some (binding, binder), scope :: outer => some do
    let kind := scope.node.scopeKind?.getD .function
    let declaredType ← FunctionFact.hintText (hint? binder)
    return {
      name
      isConstant := Name.isConstant name
      declaredType
      scope := kind
      scopeName := Syntax.scopeName (scope :: outer)
      scopeStatements := statementsIn scope.node
      isTypeAlias := kind = .module && declaresType name declaredType (value? binder)
      binding
      isPublic := (kind = .module || kind = .classBody) && !Name.isPrivate name
        && !FunctionFact.inPrivateClass above
      pos }
  | _, _ => none

def ofPlace? (p : Place) : Option (Except AnalysisFault VariableFact) :=
  match p.node with
  | .expr e => match e.kind with
    | .binding name => ofBinding? name e.pos p.above
    | _ => none
  | .stmt _ => none

end VariableFact

end SourceConventions
