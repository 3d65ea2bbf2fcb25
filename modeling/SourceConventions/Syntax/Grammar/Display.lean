import SourceConventions.Syntax.Grammar.Target

/-!
# Displays and comprehensions

Lists, tuples, sets and dictionaries, element by element or by a comprehension, and groups.
-/

namespace SourceConventions.Syntax.Grammar

open Reading

variable (g : Grammar)

/-! ### Clauses -/

def clause : Reading Expr := do
  let start ← peek
  let plain :=
    commit
      (do
        let _ ← keyword "for"
        let target ← starTargets g
        let _ ← keyword "in"
        return target)
      (clauseRest start false)
      (diagnose (loopTargetMisuse g))
  commit
    (do
      let _ ← keyword "async"
      let _ ← keyword "for"
      let target ← starTargets g
      let _ ← keyword "in"
      return target)
    (clauseRest start true)
    plain
where
  clauseRest (start : Token) (isAsync : Bool) (target : Expr) : Reading Expr := do
    let iterable ← g .disjunction
    let conditions ← many (do let _ ← keyword "if"; g .disjunction)
    return node (.clause isAsync) start.pos
      (target.withRole .target :: iterable.withRole .iterable :: all .condition conditions)

def clauses : Reading (List Expr) := many1 (clause g)

/-- Looks for a comprehension over something that cannot be its element. -/
def comprehensionMisuse : Reading Unit :=
  (do
    let _ ← symbol "[" <|> symbol "(" <|> symbol "\x7b"
    let e ← starredExpression g
    let _ ← clauses g
    complainAt e.pos.line .starredComprehension)
  <|> (do
    let _ ← symbol "[" <|> symbol "\x7b"
    let e ← starNamedExpression g
    let _ ← symbol ","
    let _ ← starNamedExpressions g
    let _ ← clauses g
    complainAt e.pos.line .bareComprehensionTarget)
  <|> (do
    let _ ← symbol "[" <|> symbol "\x7b"
    let e ← starNamedExpression g
    let _ ← symbol ","
    let _ ← clauses g
    complainAt e.pos.line .bareComprehensionTarget)

def comprehension (kind : ExprKind) (opening closing : String) (element : Reading Expr) :
    Reading Expr :=
  (do
    let start ← symbol opening
    let e ← element
    let cs ← clauses g
    let _ ← symbol closing
    return node kind start.pos (e.withRole .element :: all .clause cs))
  <|> diagnose (comprehensionMisuse g)

def generator : Reading Expr :=
  comprehension g .generator "(" ")" (assignmentExpression g <|> expressionAlone g)

/-! ### Lists, tuples, sets and groups -/

def list : Reading Expr := do
  let start ← symbol "["
  let es ← maybe (starNamedExpressions g)
  let _ ← symbol "]"
  return node .list start.pos (all .element (es.getD []))

def tuple : Reading Expr := do
  let start ← symbol "("
  let es ← maybe (do
    let first ← starNamedExpression g
    let _ ← symbol ","
    let rest ← maybe (starNamedExpressions g)
    return first :: rest.getD [])
  let _ ← symbol ")"
  return node .tuple start.pos (all .element (es.getD []))

def set : Reading Expr := do
  let start ← symbol "\x7b"
  let es ← starNamedExpressions g
  let _ ← symbol "\x7d"
  return node .set start.pos (all .element es)

def group : Reading Expr :=
  (do
    let _ ← symbol "("
    let e ← yieldExpression g <|> namedExpression g
    let _ ← symbol ")"
    return e)
  <|> diagnose groupMisuse
where
  groupMisuse : Reading Unit :=
    (do
      let _ ← symbol "("
      let e ← starredExpression g
      let _ ← symbol ")"
      complainAt e.pos.line .starredGroup)
    <|> (do
      let _ ← symbol "("
      let stars ← symbol "**"
      let _ ← g .expression
      let _ ← symbol ")"
      complainAt stars.pos.line .doubleStarredGroup)

/-! ### Dictionaries -/

def keyAndValue : Reading (Expr × Expr) := do
  let key ← g .expression
  let _ ← symbol ":"
  let value ← g .expression
  return (key, value)

/-- A key with its value, or a mark with the dictionary that is taken up. -/
def dictItem : Reading (Expr × Expr) :=
  (do
    let stars ← symbol "**"
    let value ← g .bitOr
    return (node .unpackMark stars.pos [], value))
  <|> keyAndValue g

/-- Looks for a value that is missing or starred. -/
def valueMisuse : Reading Unit :=
  (do
    let _ ← g .expression
    let _ ← symbol ":"
    let star ← symbol "*"
    let _ ← g .bitOr
    complainAt star.pos.line .starredValue)
  <|> (do
    let _ ← g .expression
    let colon ← symbol ":"
    ahead (symbol "\x7d" <|> symbol ",")
    complainAt colon.pos.line .keyWithoutValue)

def itemMisuse : Reading Unit :=
  (do
    let e ← g .expression
    notAhead (symbol ":")
    complainAt e.pos.line .keyWithoutColon)
  <|> valueMisuse g

def dictMisuse : Reading Unit := do
  let _ ← symbol "\x7b"
  (do
    let _ ← sepBy1 (dictItem g) (symbol ",")
    let _ ← symbol ","
    itemMisuse g)
  <|> valueMisuse g

/-- An item behind a comma. That its key lacks a colon is told before all else that may be wrong
with the key. -/
def laterItem : Reading (Expr × Expr) :=
  diagnose (do
    let key ← aside (plainly (g .expression))
    notAhead (symbol ":")
    complainAt key.pos.line .keyWithoutColon)
  <|> dictItem g

def dict : Reading Expr :=
  (do
    let start ← symbol "\x7b"
    let items ← maybe (do
      let item ← dictItem g
      let items ← many (do let _ ← symbol ","; laterItem g)
      let _ ← maybe (symbol ",")
      return item :: items)
    let _ ← symbol "\x7d"
    return node .dict start.pos
      ((items.getD []).flatMap fun (key, value) => [key.withRole .key, value.withRole .value]))
  <|> diagnose (dictMisuse g)

def dictComprehension : Reading Expr :=
  (do
    let start ← symbol "\x7b"
    let (key, value) ← keyAndValue g
    let cs ← clauses g
    let _ ← symbol "\x7d"
    return node .dictComprehension start.pos
      (key.withRole .key :: value.withRole .value :: all .clause cs))
  <|> diagnose (do
    let _ ← symbol "\x7b"
    let stars ← symbol "**"
    let _ ← g .bitOr
    let _ ← clauses g
    let _ ← symbol "\x7d"
    complainAt stars.pos.line .unpackedComprehension)

end SourceConventions.Syntax.Grammar
