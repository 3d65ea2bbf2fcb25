import SourceConventions.Syntax.Misuse
import SourceConventions.Syntax.Reading

/-!
# Expressions in a row

What may stand where an expression may, and rows of such things: named expressions, starred ones,
yields, bare tuples and what is written between the brackets of a subscript.
-/

namespace SourceConventions.Syntax.Grammar

open Reading

/-- A node whose role is given to it by the node above. -/
def node (kind : ExprKind) (pos : Position) (children : List Expr) : Expr :=
  .mk .value kind pos children

def all (role : Role) (es : List Expr) : List Expr := es.map (Expr.withRole role)

def optional (role : Role) (e : Option Expr) : List Expr := all role e.toList

def nameNode (t : Token) : Expr := node (.name t.lexeme) t.pos []

def bindingNode (t : Token) : Expr := node (.binding t.lexeme) t.pos []

/-- The complaint about a target, if it is one that cannot stand at the place. -/
def complainTarget (place : TargetPlace) (e : Expr) : Reading Unit :=
  match e.misused? place with
  | some part => complainAt part.pos.line (place.complaint part.phrase)
  | none => pure ()

variable (g : Grammar)

def assignmentExpression : Reading Expr := do
  let target ← name
  let _ ← symbol ":="
  let value ← g .expression
  return node .walrus target.pos [(bindingNode target).withRole .target, value.withRole .value]

/-- An expression that no walrus follows. -/
def expressionAlone : Reading Expr := do
  let e ← g .expression
  notAhead (symbol ":=")
  return e

def namedExpression : Reading Expr :=
  assignmentExpression g <|> diagnose (g .walrusMisuse) <|> expressionAlone g

def starredOperand : Reading Expr := do
  let star ← symbol "*"
  let value ← g .bitOr
  return node .starred star.pos [value.withRole .value]

def starNamedExpression : Reading Expr := starredOperand g <|> namedExpression g

def starNamedExpressions : Reading (List Expr) := do
  let es ← sepBy1 (starNamedExpression g) (symbol ",")
  let _ ← maybe (symbol ",")
  return es

/-- A starred argument. -/
def starredExpression : Reading Expr := do
  let star ← symbol "*"
  let value ← g .expression
  return node .starred star.pos [value.withRole .value]

/-- One item, or a bare tuple of them. -/
def oneOrTuple (item : Reading Expr) : Reading Expr := do
  let pos ← here
  let first ← item
  let rest ← many (do let _ ← symbol ","; item)
  let comma ← maybe (symbol ",")
  if rest.isEmpty && comma.isNone then return first
  return node .tuple pos (all .element (first :: rest))

def starExpressions : Reading Expr := oneOrTuple (g .starExpression)

def expressions : Reading Expr := oneOrTuple (g .expression)

def starExpression : Reading Expr := starredOperand g <|> g .expression

def yieldExpression : Reading Expr := do
  let start ← keyword "yield"
  (do
    let _ ← keyword "from"
    let value ← g .expression
    return node .yieldFrom start.pos [value.withRole .value])
  <|> (do
    let value ← maybe (starExpressions g)
    return node .yield start.pos (optional .value value))

/-- What may stand to the right of an equals sign. -/
def yieldOrStar : Reading Expr := yieldExpression g <|> starExpressions g

def slice : Reading Expr :=
  (do
    let pos ← here
    let lower ← maybe (g .expression)
    let _ ← symbol ":"
    let upper ← maybe (g .expression)
    let step ← maybe (do let _ ← symbol ":"; maybe (g .expression))
    return node .slice pos
      (optional .lower lower ++ optional .upper upper ++ optional .step step.join))
  <|> namedExpression g

def slices : Reading Expr :=
  (do
    let e ← slice g
    notAhead (symbol ",")
    return e)
  <|> (do
    let pos ← here
    let es ← sepBy1 (slice g <|> starredExpression g) (symbol ",")
    let _ ← maybe (symbol ",")
    return node .tuple pos (all .element es))

/-- A name or an attribute of one. -/
def dotted : Reading Expr := do
  let first ← name
  iterate (fun e => do
    let _ ← symbol "."
    let n ← name
    return node (.attribute n.lexeme) first.pos [e.withRole .value]) (nameNode first)

end SourceConventions.Syntax.Grammar
