import SourceConventions.Syntax.Grammar.Call
import SourceConventions.Syntax.Grammar.Parameter
import SourceConventions.Syntax.Literal

/-!
# Expressions

From atoms to conditional expressions and lambdas, in the order in which they bind.
-/

namespace SourceConventions.Syntax.Grammar

open Reading

variable (g : Grammar)

/-! ### Atoms and what follows them -/

def numberNode (t : Token) : Reading Expr :=
  match Literal.numberValue t.lexeme with
  | .ok n => pure (node (.constant (.number n)) t.pos [])
  | .error c => complainAt t.pos.line c

def number : Reading Expr := do numberNode (← ofKind .number)

def constant (t : Token) : Option Constant :=
  match t.kind, t.lexeme with
  | .keyword, "True" => some (.bool true)
  | .keyword, "False" => some (.bool false)
  | .keyword, "None" => some .nothing
  | .symbol, "..." => some .ellipsis
  | _, _ => none

def constantExpression : Reading Expr := do
  let t ← token fun t => (constant t).isSome
  match constant t with
  | some c => return node (.constant c) t.pos []
  | none => failure

def atom : Reading Expr := do
  let t ← peek
  match t.kind with
  | .name => nameNode <$> name
  | .text => g .texts
  | .number => number
  | .keyword => constantExpression
  | .symbol =>
    match t.lexeme with
    | "(" => tuple g <|> group g <|> generator g
    | "[" =>
      list g <|> comprehension g .listComprehension "[" "]" (namedExpression g)
    | "\x7b" =>
      dict g <|> set g <|> dictComprehension g
        <|> comprehension g .setComprehension "\x7b" "\x7d" (namedExpression g)
    | _ => constantExpression
  | _ => failure

def attributeOf (pos : Position) (e : Expr) : Reading Expr := do
  let _ ← symbol "."
  let n ← name
  return node (.attribute n.lexeme) pos [e.withRole .value]

def callNode (pos : Position) (e : Expr) (arguments : List Expr) : Expr :=
  node .call pos (e.withRole .function :: arguments)

def callOf (pos : Position) (e : Expr) : Reading Expr := do
  let _ ← symbol "("
  let es ← maybe (g .arguments)
  let _ ← symbol ")"
  return callNode pos e (es.getD [])

def generatorCallOf (pos : Position) (e : Expr) : Reading Expr := do
  return callNode pos e [(← generator g).withRole .argument]

def itemOf (pos : Position) (e : Expr) : Reading Expr := do
  let _ ← symbol "["
  let index ← slices g
  let _ ← symbol "]"
  return node .subscript pos [e.withRole .value, index.withRole .index]

def primary : Reading Expr := do
  let pos ← here
  let e ← atom g
  iterate (fun e =>
    attributeOf pos e <|> generatorCallOf g pos e <|> callOf g pos e <|> itemOf g pos e) e

/-- What stands before the last trailer of a target. -/
def targetPrimary : Reading Expr := do
  let pos ← here
  let e ← goesOn (atom g)
  iterate (fun e =>
    goesOn (attributeOf pos e) <|> goesOn (itemOf g pos e) <|> goesOn (generatorCallOf g pos e)
      <|> goesOn (callOf g pos e)) e
where
  goesOn (p : Reading Expr) : Reading Expr := do
    let e ← p
    trailerAhead
    return e

def awaited : Reading Expr :=
  (do
    let start ← keyword "await"
    let e ← g .primary
    return node .await start.pos [e.withRole .value])
  <|> g .primary

/-! ### Operators -/

def binaryNode (pos : Position) (op : BinaryOperator) (a b : Expr) : Expr :=
  node (.binary op) pos [a.withRole .operand, b.withRole .operand]

def power : Reading Expr :=
  (do
    let pos ← here
    let a ← g .awaited
    let _ ← symbol "**"
    let b ← g .factor
    return binaryNode pos .power a b)
  <|> g .awaited

def unaryNode (pos : Position) (op : UnaryOperator) (e : Expr) : Expr :=
  node (.unary op) pos [e.withRole .operand]

def signed (lexeme : String) (op : UnaryOperator) : Reading Expr := do
  let t ← symbol lexeme
  let e ← g .factor
  return unaryNode t.pos op e

def factor : Reading Expr :=
  signed g "+" .plus <|> signed g "-" .minus <|> signed g "~" .invert <|> power g

def operator (ops : List BinaryOperator) : Reading BinaryOperator := do
  let t ← token fun t => t.kind == .symbol && ops.any (·.symbol == t.lexeme)
  match ops.find? (·.symbol == t.lexeme) with
  | some op => return op
  | none => failure

/-- Operands with operators between them, of which the first binds first. -/
def leftward (ops : List BinaryOperator) (operand : Reading Expr) : Reading Expr := do
  let pos ← here
  let first ← operand
  iterate (fun a => do
    let op ← operator ops
    let b ← operand
    return binaryNode pos op a b) first

def term : Reading Expr :=
  leftward [.multiply, .divide, .floorDivide, .remainder, .matrixMultiply] (g .factor)

def sum : Reading Expr := leftward [.add, .subtract] (g .term)

def shift : Reading Expr := leftward [.shiftLeft, .shiftRight] (g .sum)

def bitAnd : Reading Expr := leftward [.bitAnd] (g .shift)

def bitXor : Reading Expr := leftward [.bitXor] (g .bitAnd)

def bitOr : Reading Expr := leftward [.bitOr] (g .bitXor)

def comparatorSymbols : List Comparator :=
  [.equal, .notEqual, .lessEqual, .less, .greaterEqual, .greater]

def comparator : Reading Comparator :=
  (do
    let t ← token fun t => t.kind == .symbol && comparatorSymbols.any (·.symbol == t.lexeme)
    match comparatorSymbols.find? (·.symbol == t.lexeme) with
    | some op => return op
    | none => failure)
  <|> (do
    let _ ← keyword "not"
    let _ ← keyword "in"
    return .notIn)
  <|> (do
    let _ ← keyword "in"
    return .isIn)

/-- A comparator with what it compares with; `is` may be read in two ways. -/
def comparedWith : Reading (Comparator × Expr) :=
  (do
    let op ← comparator
    return (op, ← g .bitOr))
  <|> (do
    let _ ← keyword "is"
    let _ ← keyword "not"
    return (.isNotSame, ← g .bitOr))
  <|> (do
    let _ ← keyword "is"
    return (.isSame, ← g .bitOr))

def comparison : Reading Expr := do
  let pos ← here
  let first ← g .bitOr
  let rest ← many (comparedWith g)
  if rest.isEmpty then return first
  return node (.comparison (rest.map Prod.fst)) pos (all .operand (first :: rest.map Prod.snd))

def inversion : Reading Expr :=
  (do
    let t ← keyword "not"
    let e ← g .inversion
    return unaryNode t.pos .not e)
  <|> comparison g

def logical (op : LogicalOperator) (operand : Reading Expr) : Reading Expr := do
  let pos ← here
  let first ← operand
  let rest ← many (do let _ ← keyword op.symbol; operand)
  if rest.isEmpty then return first
  return node (.logical op) pos (all .operand (first :: rest))

def conjunction : Reading Expr := logical .and (g .inversion)

def disjunction : Reading Expr := logical .or (g .conjunction)

/-! ### Whole expressions -/

def lambda : Reading Expr := do
  let start ← keyword "lambda"
  let ps ← maybe (parameters g .lambda)
  let _ ← symbol ":"
  let body ← g .expression
  return node .lambda start.pos [(ps.getD .empty).toNode start.pos, body.withRole .body]

def conditional : Reading Expr := do
  let pos ← here
  let body ← g .disjunction
  let _ ← keyword "if"
  let test ← g .disjunction
  let _ ← keyword "else"
  let otherwise ← g .expression
  return node .conditional pos
    [test.withRole .test, body.withRole .body, otherwise.withRole .otherwise]

def wholeExpression : Reading Expr := conditional g <|> g .disjunction <|> lambda g

/-- Words that were statements once and are followed by what looks like their argument. -/
def isBareCall (e : Expr) : Bool := e.kind == .name "print" || e.kind == .name "exec"

def expressionMisuse : Reading Unit :=
  (do
    notAhead ((do
        let _ ← name
        let _ ← ofKind .text)
      <|> (do let _ ← token fun t => t.kind == .name && startsSoftKeyword t.lexeme))
    let a ← g .disjunction
    let _ ← plainly (wholeExpression g)
    if (← passed).level ≠ 0 && !isBareCall a then complainAt a.pos.line .missingComma)
  <|> (do
    let a ← g .disjunction
    let _ ← keyword "if"
    let _ ← g .disjunction
    notAhead ((do let _ ← keyword "else") <|> (do let _ ← symbol ":"))
    complainAt a.pos.line .expectedElse)

def bareCallMisuse : Reading Unit := do
  let t ← name
  notAhead (symbol "(")
  let _ ← starExpressions g
  if isBareCall (nameNode t) then complainAt t.pos.line (.missingCallParentheses t.lexeme)

def expression : Reading Expr :=
  diagnose (expressionMisuse g) <|> diagnose (bareCallMisuse g) <|> wholeExpression g

/-- Looks for a walrus or an equals sign behind something that it cannot assign to. -/
def walrusMisuse : Reading Unit :=
  (do
    let e ← g .expression
    let _ ← symbol ":="
    let _ ← g .expression
    complainAt e.pos.line (.walrusTarget e.phrase))
  <|> (do
    let t ← name
    let _ ← symbol "="
    let _ ← g .bitOr
    noAssignment
    complainAt t.pos.line .comparisonOrWalrus)
  <|> (do
    notAhead (list g <|> tuple g <|> generator g <|> constantKeyword)
    let e ← g .bitOr
    let _ ← symbol "="
    let _ ← g .bitOr
    noAssignment
    complainAt e.pos.line (.cannot .assignHere e.phrase))
where
  noAssignment : Reading Unit := notAhead (symbol "=" <|> symbol ":=")
  constantKeyword : Reading Expr := do
    let t ← keyword "True" <|> keyword "None" <|> keyword "False"
    return nameNode t

end SourceConventions.Syntax.Grammar
