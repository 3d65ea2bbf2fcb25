import SourceConventions.Facts.Basic
import SourceConventions.Name

/-!
# Facts about literals
-/

namespace SourceConventions

open Syntax

namespace LiteralFact

/-- A literal together with the sign before it. -/
structure Anchor where
  value : LiteralValue
  expr : Expr
  above : List Node

/-- A number takes a sign that stands directly before it. -/
def numberAnchor (n : Numeral) (e : Expr) : List Node → Anchor
  | .expr s :: above =>
    match s.kind with
    | .unary .minus => ⟨.number n.neg, s, above⟩
    | .unary .plus => ⟨.number n, s, above⟩
    | _ => ⟨.number n, e, .expr s :: above⟩
  | above => ⟨.number n, e, above⟩

def anchor? (p : Place) : Option Anchor :=
  match p.node with
  | .expr e => match e.kind with
    | .constant (.number n) => some (numberAnchor n e p.above)
    | .constant (.text s) => some ⟨.text s, e, p.above⟩
    | _ => none
  | .stmt _ => none

/-- The first operand of a comparison that has a name. -/
def comparedName? (operands : List Expr) : Option String :=
  operands.findSome? fun e =>
    match e.kind with
    | .name n | .attribute n => some n
    | _ => none

def isContainer : ExprKind → Bool
  | .tuple | .list | .set => true
  | _ => false

/-- The comparison that a literal is an operand of, by itself or in a container. -/
def comparison? : List Node → Option Expr
  | .expr p :: rest =>
    match p.kind with
    | .comparison _ => some p
    | k =>
      if isContainer k then
        match rest with
        | .expr q :: _ => match q.kind with
          | .comparison _ => some q
          | _ => none
        | _ => none
      else none
  | _ => none

/-- What is done with an expression in a role below some nodes, comparisons apart. -/
def plainContext (role : Role) : List Node → LiteralContext
  | .expr p :: _ => match p.kind with
    | .binary _ => .arithmetic
    | .arguments _ => if role = .default || role = .keywordDefault then .default else .other
    | _ => .other
  | .stmt s :: _ => match s.kind with
    | .augmentedAssign _ => if role = .value then .arithmetic else .other
    | _ => .other
  | [] => .other

/-- What is done with an expression, and the name that it is compared with. -/
def contextOf (e : Expr) (above : List Node) : LiteralContext × Option String :=
  match comparison? above with
  | some c => (.comparison, comparedName? c.children)
  | none => (plainContext e.role above, none)

/-- The names of a target, if it is a name or a flat row of names. -/
def targetNames? (e : Expr) : Option (List String) :=
  match e.kind with
  | .binding n => some [n]
  | .tuple | .list => e.children.mapM fun c =>
    match c.kind with
    | .binding n => some n
    | _ => none
  | _ => none

/-- Whether a statement gives values to constants only. -/
def definesConstants (s : Stmt) : Bool :=
  let targets := s.partsIn .target
  let constants (names : List String) : Bool := !names.isEmpty && names.all Name.isConstant
  match s.kind with
  | .assign => (targets.mapM targetNames?).any fun names => constants names.flatten
  | .annotatedAssign =>
    (s.part? .value).isSome && (targets.mapM targetNames?).any fun names => constants names.flatten
  | _ => false

/-- Whether the innermost statement above an expression defines constants. -/
def inConstantDefinition (above : List Node) : Bool :=
  match above.find? Node.isStatement with
  | some (.stmt s) => definesConstants s
  | _ => false

def ofAnchor (a : Anchor) : LiteralFact :=
  let (context, compared) := contextOf a.expr a.above
  { value := a.value
    enclosing := qualifiedName a.above
    isNamedConstant := inConstantDefinition a.above
    context
    compared
    pos := a.expr.pos }

/-- Texts are of interest in comparisons only. -/
def isOfInterest (f : LiteralFact) : Bool :=
  match f.value with
  | .number _ => true
  | .text _ => f.context = .comparison

def ofPlace? (p : Place) : Option LiteralFact :=
  ((anchor? p).map ofAnchor).filter isOfInterest

end LiteralFact

end SourceConventions
