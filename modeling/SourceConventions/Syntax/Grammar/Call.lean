import SourceConventions.Syntax.Grammar.Display

/-!
# Arguments of calls

The positional and starred arguments of a call come first, in the role of arguments; named and
double starred ones follow as keywords.
-/

namespace SourceConventions.Syntax.Grammar

open Reading

variable (g : Grammar)

def keywordNode (pos : Position) (id : Option String) (value : Expr) : Expr :=
  (node (.keyword id) pos [value.withRole .value]).withRole .keyword

/-- Looks for something that is given a value like a keyword but is none. -/
def keywordMisuse : Reading Unit :=
  (do
    let t ← keyword "True" <|> keyword "False" <|> keyword "None"
    let _ ← symbol "="
    complainAt t.pos.line (.cannot .assign t.lexeme))
  <|> (do
    let t ← name
    let _ ← symbol "="
    let _ ← g .expression
    let _ ← clauses g
    complainAt t.pos.line .comparisonOrWalrus)
  <|> (do
    notAhead (do let _ ← name; symbol "=")
    let e ← g .expression
    let _ ← symbol "="
    complainAt e.pos.line .assignmentInCall)

def namedArgument : Reading Expr := do
  let t ← name
  let _ ← symbol "="
  let value ← g .expression
  return keywordNode t.pos t.lexeme value

def starredArgument : Reading Expr := Expr.withRole .argument <$> starredExpression g

def namedOrStarred : Reading Expr :=
  diagnose (keywordMisuse g) <|> namedArgument g <|> starredArgument g

def namedOrDoubleStarred : Reading Expr :=
  diagnose (keywordMisuse g) <|> namedArgument g <|> (do
    let stars ← symbol "**"
    let value ← g .expression
    return keywordNode stars.pos none value)

def keywordArguments : Reading (List Expr) :=
  (do
    let as ← sepBy1 (namedOrStarred g) (symbol ",")
    let _ ← symbol ","
    let bs ← sepBy1 (namedOrDoubleStarred g) (symbol ",")
    return as ++ bs)
  <|> sepBy1 (namedOrStarred g) (symbol ",")
  <|> sepBy1 (namedOrDoubleStarred g) (symbol ",")

def positionalArgument : Reading Expr :=
  starredArgument g <|> (do
    let e ← assignmentExpression g <|> expressionAlone g
    notAhead (symbol "=")
    return e.withRole .argument)

/-- Arguments as they are visited: those without a name come before the others. -/
def keywordsLast (es : List Expr) : List Expr :=
  es.filter (·.role = .argument) ++ es.filter (·.role ≠ .argument)

/-- Arguments without a comma behind them. -/
def bareArguments : Reading (List Expr) :=
  (do
    let as ← sepBy1 (positionalArgument g) (symbol ",")
    let bs ← maybe (do let _ ← symbol ","; keywordArguments g)
    return keywordsLast (as ++ bs.getD []))
  <|> (keywordsLast <$> keywordArguments g)

def takesUpDict (e : Expr) : Bool := e.kind == .keyword none

/-- Looks for arguments in a wrong order and for generators without parentheses. -/
def argumentsMisuse : Reading Unit :=
  (do
    let pos ← here
    let _ ← bareArguments g
    let _ ← symbol ","
    let _ ← symbol "*"
    complainAt pos.line .iterableAfterUnpacking)
  <|> (do
    let e ← g .expression
    let _ ← clauses g
    let _ ← symbol ","
    let _ ← maybe ((Function.const _ () <$> bareArguments g)
      <|> (do let _ ← g .expression; let _ ← clauses g))
    complainAt e.pos.line .bareGenerator)
  <|> (do
    let t ← name
    let _ ← symbol "="
    let _ ← g .expression
    let _ ← clauses g
    complainAt t.pos.line .comparisonOrWalrus)
  <|> (do
    let es ← bareArguments g
    let _ ← clauses g
    match es.filter (·.role = .argument) with
    | _ :: e :: rest => complainAt ((e :: rest).getLastD e).pos.line .bareGenerator
    | _ => return)
  <|> (do
    let _ ← bareArguments g
    let _ ← symbol ","
    let e ← g .expression
    let _ ← clauses g
    complainAt e.pos.line .bareGenerator)
  <|> (do
    let es ← bareArguments g
    let _ ← symbol ","
    let _ ← bareArguments g
    complain (if es.any takesUpDict then .positionalAfterUnpacking else .positionalAfterKeyword))

def arguments : Reading (List Expr) :=
  (do
    let es ← bareArguments g
    let _ ← maybe (symbol ",")
    ahead (symbol ")")
    return es)
  <|> diagnose (argumentsMisuse g)

/-- The arguments between parentheses, if there are any. -/
def parenthesizedArguments : Reading (List Expr) := do
  let _ ← symbol "("
  let es ← maybe (g .arguments)
  let _ ← symbol ")"
  return es.getD []

end SourceConventions.Syntax.Grammar
