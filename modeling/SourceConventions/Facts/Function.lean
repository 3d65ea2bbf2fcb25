import SourceConventions.Facts.Basic
import SourceConventions.Name
import SourceConventions.Syntax.Written

/-!
# Facts about functions
-/

namespace SourceConventions

open Syntax

/-- Decorators that make a function read like a variable. -/
def propertyDecorators : List String :=
  ["property", "cached_property", "setter", "getter", "deleter"]

namespace FunctionFact

/-- What a decorator is called; a call is called like what is called. -/
def decoratorName? (e : Expr) : Option String :=
  let e := if e.kind = .call then (e.child? .function).getD e else e
  match e.kind with
  | .name n | .attribute n => some n
  | _ => none

def decoratorNames (s : Stmt) : List String :=
  match s.part? .decorators with
  | some d => d.children.filterMap decoratorName?
  | none => []

/-- Whether a class with a private name is among nodes. -/
def inPrivateClass (nodes : List Node) : Bool :=
  nodes.any fun n => n.isClass && n.definedName?.any Name.isPrivate

/-- Positional parameters, the first of which may be the receiver. -/
def positionalFacts (hasReceiver : Bool) (ps : List Parameter) : List ParameterFact :=
  ps.zipIdx.map fun (p, i) => ⟨p.name, p.annotated, hasReceiver && i == 0, p.pos⟩

/-- A parameter for the rest stands where the function stands. -/
def restFact (line : Nat) (p : RestParameter) : ParameterFact :=
  ⟨p.name, p.annotated, false, ⟨line, 0⟩⟩

def parameterFacts (hasReceiver : Bool) (line : Nat) (s : Signature) : List ParameterFact :=
  positionalFacts hasReceiver (s.positionalOnly ++ s.positional)
    ++ s.rest.toList.map (restFact line)
    ++ s.keywordOnly.map (fun p => ⟨p.name, p.annotated, false, p.pos⟩)
    ++ s.keywords.toList.map (restFact line)

def signature (s : Stmt) : Signature :=
  match (s.part? .arguments).map Expr.kind with
  | some (.arguments sig) => sig
  | _ => ⟨[], [], none, [], none⟩

/-- Whether the name of a function starts with a verb, if that can be judged. -/
def startsWithVerb? (verbs : List String) (isProperty : Bool) (name : String) : Option Bool :=
  let word := Name.firstWord name
  if verbs.isEmpty || isProperty || Name.isDunder name || word.isEmpty then none
  else some (verbs.any fun v => v.toList.isPrefixOf word.toList)

/-- The text of an annotation, if there is one. -/
def hintText (e : Option Expr) : Except AnalysisFault (Option String) :=
  match e with
  | none => .ok none
  | some e =>
    match e.written? none with
    | some text => .ok (some text)
    | none => .error .longInteger

/-- The fact about the function that is defined at a place. -/
def ofStatement (verbs : List String) (s : Stmt) (name : String) (above : List Node) :
    Except AnalysisFault FunctionFact := do
  let decorators := decoratorNames s
  let isMethod := above.head?.any Node.isClass
  let isProperty := decorators.any propertyDecorators.contains
  let isNested := above.any Node.isFunction
  return {
    name
    qualifiedName := Syntax.qualifiedName (.stmt s :: above)
    isMethod
    parameters :=
      parameterFacts (isMethod && !decorators.contains "staticmethod") s.pos.line (signature s)
    returns := ← hintText (s.part? .returns)
    startsWithVerb := startsWithVerb? verbs isProperty name
    isPublic := !Name.isPrivate name && !isNested && !inPrivateClass above
    isNested
    isProperty
    pos := s.pos }

def ofPlace? (verbs : List String) (p : Place) : Option (Except AnalysisFault FunctionFact) :=
  match p.node with
  | .stmt s => match s.kind with
    | .functionDef name _ => some (ofStatement verbs s name p.above)
    | _ => none
  | .expr _ => none

end FunctionFact

end SourceConventions
