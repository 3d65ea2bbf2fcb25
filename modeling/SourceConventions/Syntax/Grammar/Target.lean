import SourceConventions.Syntax.Grammar.Listing

/-!
# Targets

What may be assigned to, looped over or deleted.
-/

namespace SourceConventions.Syntax.Grammar

open Reading

variable (g : Grammar)

/-- What goes on from an expression to one that is no longer a name alone. -/
def trailerAhead : Reading Unit := ahead (symbol "(" <|> symbol "[" <|> symbol ".")

def starTargets : Reading Expr :=
  (do
    let e ← g .starTarget
    notAhead (symbol ",")
    return e)
  <|> (do
    let pos ← here
    let es ← sepBy1 (g .starTarget) (symbol ",")
    let _ ← maybe (symbol ",")
    return node .tuple pos (all .element es))

def starTarget : Reading Expr :=
  (do
    let star ← symbol "*"
    notAhead (symbol "*")
    let value ← g .starTarget
    return node .starred star.pos [value.withRole .value])
  <|> g .starAtomTarget

/-- An attribute or an item of something. -/
def memberTarget : Reading Expr := do
  let pos ← here
  (do
    let e ← g .targetPrimary
    let _ ← symbol "."
    let n ← name
    notAhead trailerAhead
    return node (.attribute n.lexeme) pos [e.withRole .value])
  <|> (do
    let e ← g .targetPrimary
    let _ ← symbol "["
    let index ← slices g
    let _ ← symbol "]"
    notAhead trailerAhead
    return node .subscript pos [e.withRole .value, index.withRole .index])

def starAtom : Reading Expr :=
  (bindingNode <$> name)
  <|> (do
    let _ ← symbol "("
    let e ← g .starAtomTarget
    let _ ← symbol ")"
    return e)
  <|> (do
    let start ← symbol "("
    let es ← maybe (do
      let first ← g .starTarget
      let rest ← many (do let _ ← symbol ","; g .starTarget)
      let comma ← maybe (symbol ",")
      if rest.isEmpty && comma.isNone then failure
      return first :: rest)
    let _ ← symbol ")"
    return node .tuple start.pos (all .element (es.getD [])))
  <|> (do
    let start ← symbol "["
    let es ← maybe (do
      let es ← sepBy1 (g .starTarget) (symbol ",")
      let _ ← maybe (symbol ",")
      return es)
    let _ ← symbol "]"
    return node .list start.pos (all .element (es.getD [])))

def starAtomTarget : Reading Expr := (Expr.asTarget <$> memberTarget g) <|> starAtom g

def singleTarget : Reading Expr :=
  (Expr.asTarget <$> memberTarget g)
  <|> (bindingNode <$> name)
  <|> (do
    let _ ← symbol "("
    let e ← g .singleTarget
    let _ ← symbol ")"
    return e)

def deletionTargets : Reading (List Expr) := do
  let es ← sepBy1 (g .deletionTarget) (symbol ",")
  let _ ← maybe (symbol ",")
  return es

def deletionTarget : Reading Expr :=
  (Expr.asDeletion <$> memberTarget g)
  <|> ((fun t => node (.deletion t.lexeme) t.pos []) <$> name)
  <|> (do
    let _ ← symbol "("
    let e ← g .deletionTarget
    let _ ← symbol ")"
    return e)
  <|> (do
    let start ← symbol "("
    let es ← maybe (deletionTargets g)
    let _ ← symbol ")"
    return node .tuple start.pos (all .element (es.getD [])))
  <|> (do
    let start ← symbol "["
    let es ← maybe (deletionTargets g)
    let _ ← symbol "]"
    return node .list start.pos (all .element (es.getD [])))

/-- Looks for a loop over something that cannot be a target. -/
def loopTargetMisuse : Reading Unit := do
  let _ ← maybe (keyword "async")
  let _ ← keyword "for"
  let e ← starExpressions g
  complainTarget .loop e

/-- A display that cannot be annotated as a whole, in any number of parentheses. -/
def annotatedGroup (list tuple : Reading Expr) : Reading Expr :=
  list <|> tuple <|> (do
    let _ ← symbol "("
    let e ← g .annotatedGroup
    let _ ← symbol ")"
    return e)

end SourceConventions.Syntax.Grammar
