import SourceConventions.Syntax.Complaint
import SourceConventions.Syntax.Tree

/-!
# Expressions that cannot be targets

`Expr.phrase` is what an expression is called in a complaint, and `Expr.misused?` finds the part of
a would-be target that cannot be assigned to or deleted.
-/

namespace SourceConventions.Syntax

/-- Where the targets stand. -/
inductive TargetPlace where
  | assignment
  | loop
  | deletion
  deriving DecidableEq, Repr

/-- The complaint about a target that cannot stand there. -/
def TargetPlace.complaint (what : String) : TargetPlace → Complaint
  | .deletion => .cannot .delete what
  | _ => .cannot .assign what

namespace Constant

def phrase : Constant → String
  | .nothing => "None"
  | .bool true => "True"
  | .bool false => "False"
  | .ellipsis => "ellipsis"
  | _ => "literal"

end Constant

namespace Expr

/-- What an expression is called in a complaint. -/
def phrase (e : Expr) : String :=
  match e.kind with
  | .attribute _ | .attributeTarget _ => "attribute"
  | .subscript => "subscript"
  | .starred => "starred"
  | .name _ | .binding _ | .deletion _ => "name"
  | .list => "list"
  | .tuple => "tuple"
  | .lambda => "lambda"
  | .call => "function call"
  | .logical _ | .binary _ | .unary _ => "expression"
  | .generator => "generator expression"
  | .yield | .yieldFrom => "yield expression"
  | .await => "await expression"
  | .listComprehension => "list comprehension"
  | .setComprehension => "set comprehension"
  | .dictComprehension => "dict comprehension"
  | .dict => "dict literal"
  | .set => "set display"
  | .joined | .placeholder _ => "f-string expression"
  | .constant c => c.phrase
  | .comparison _ => "comparison"
  | .conditional => "conditional expression"
  | .walrus => "named expression"
  | _ => "expression"

mutual

/-- The first part that cannot be a target at the place. -/
def misused? (place : TargetPlace) : Expr → Option Expr
  | mk r k p c =>
    match k with
    | .name _ | .subscript | .attribute _ => none
    | .list | .tuple => misusedAmong? place c
    | .starred =>
      if place = .deletion then some (mk r k p c) else misusedAmong? place c
    | .comparison ops =>
      if place ≠ .loop then some (mk r k p c)
      else if ops.head? = some .isIn then misusedFirst? place c
      else none
    | _ => some (mk r k p c)

def misusedAmong? (place : TargetPlace) : List Expr → Option Expr
  | [] => none
  | e :: rest => (misused? place e).or (misusedAmong? place rest)

def misusedFirst? (place : TargetPlace) : List Expr → Option Expr
  | [] => none
  | e :: _ => misused? place e

end

/-- A name that is given a value, and an attribute that is set. -/
def asTarget : Expr → Expr
  | mk r (.name n) p c => mk r (.binding n) p c
  | mk r (.attribute n) p c => mk r (.attributeTarget n) p c
  | e => e

/-- A name or an attribute that is deleted. -/
def asDeletion : Expr → Expr
  | mk r (.name n) p c => mk r (.deletion n) p c
  | mk r (.attribute n) p c => mk r (.attributeTarget n) p c
  | e => e

end Expr

end SourceConventions.Syntax
