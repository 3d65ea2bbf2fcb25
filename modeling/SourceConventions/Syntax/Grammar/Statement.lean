import SourceConventions.Syntax.Grammar.Pattern

/-!
# Statements

Simple statements, blocks and the statements that have blocks. The statements of all blocks of a
statement are its body, each in the role that its block has.
-/

namespace SourceConventions.Syntax.Grammar

open Reading

def lineEnd : Reading Token := ofKind .lineEnd

def statementNode (kind : StmtKind) (pos : Position) (parts : List Expr) (body : List Stmt) : Stmt :=
  .mk .body kind pos parts body

def block (role : Role) (ss : List Stmt) : List Stmt := ss.map (Stmt.withRole role)

variable (g : Grammar)

/-! ### Assignments -/

def augmentedOperators : List (String × BinaryOperator) := [
  ("+=", .add), ("-=", .subtract), ("*=", .multiply), ("@=", .matrixMultiply), ("/=", .divide),
  ("%=", .remainder), ("&=", .bitAnd), ("|=", .bitOr), ("^=", .bitXor), ("<<=", .shiftLeft),
  (">>=", .shiftRight), ("**=", .power), ("//=", .floorDivide)]

def augmentedOperator : Reading BinaryOperator := do
  let t ← token fun t => t.kind == .symbol && augmentedOperators.any (·.1 == t.lexeme)
  match augmentedOperators.lookup t.lexeme with
  | some op => return op
  | none => failure

def annotatedNode (pos : Position) (target hint : Expr) (value : Option Expr) : Stmt :=
  statementNode .annotatedAssign pos
    (target.withRole .target :: hint.withRole .hint :: optional .value value) []

def hintAndValue (pos : Position) (target : Expr) : Reading Stmt := do
  let _ ← symbol ":"
  let hint ← g .expression
  let value ← maybe (do
    let _ ← symbol "="
    yieldOrStar g)
  return annotatedNode pos target hint value

def targetsBefore : Reading Expr := do
  let e ← starTargets g
  let _ ← symbol "="
  return e

/-- Looks for targets that cannot be assigned to or annotated. -/
def assignmentMisuse : Reading Unit :=
  (do
    let e ← annotatedGroup g (list g) (tuple g)
    let _ ← symbol ":"
    let _ ← g .expression
    complainAt e.pos.line (.annotatedMany e.phrase))
  <|> (do
    let e ← starNamedExpression g
    let _ ← symbol ","
    let _ ← many (starNamedExpressions g)
    let _ ← symbol ":"
    let _ ← g .expression
    complainAt e.pos.line (.annotatedMany "tuple"))
  <|> (do
    let e ← g .expression
    let _ ← symbol ":"
    let _ ← g .expression
    complainAt e.pos.line .annotatedTarget)
  <|> (do
    let _ ← many (targetsBefore g)
    let e ← starExpressions g
    let _ ← symbol "="
    complainTarget .assignment e)
  <|> (do
    let _ ← many (targetsBefore g)
    let e ← yieldExpression g
    let _ ← symbol "="
    complainAt e.pos.line .cannotAssignYield)
  <|> (do
    let e ← starExpressions g
    let _ ← augmentedOperator
    let _ ← yieldOrStar g
    complainAt e.pos.line (.augmentedTarget e.phrase))

def assignment : Reading Stmt := do
  let pos ← here
  (do
    let t ← name
    hintAndValue g pos (bindingNode t))
  <|> (do
    let target ← (do
        let _ ← symbol "("
        let e ← g .singleTarget
        let _ ← symbol ")"
        return e)
      <|> (Expr.asTarget <$> memberTarget g)
    hintAndValue g pos target)
  <|> (do
    let targets ← many1 (targetsBefore g)
    let value ← yieldOrStar g
    notAhead (symbol "=")
    let _ ← maybe (ofKind .typeComment)
    return statementNode .assign pos (all .target targets ++ [value.withRole .value]) [])
  <|> commit
    (do
      let target ← g .singleTarget
      return (target, ← augmentedOperator))
    (fun (target, op) => do
      let value ← yieldOrStar g
      return statementNode (.augmentedAssign op) pos
        [target.withRole .target, value.withRole .value] [])
    (diagnose (assignmentMisuse g))

/-! ### Other simple statements -/

def wordStatement (lexeme : String) (kind : StmtKind) : Reading Stmt := do
  let t ← keyword lexeme
  return statementNode kind t.pos [] []

def returnStatement : Reading Stmt := do
  let t ← keyword "return"
  let value ← maybe (starExpressions g)
  return statementNode .return t.pos (optional .value value) []

def raiseStatement : Reading Stmt := do
  let t ← keyword "raise"
  (do
    let e ← g .expression
    let cause ← maybe (do
      let _ ← keyword "from"
      g .expression)
    return statementNode .raise t.pos (e.withRole .exception :: optional .cause cause) [])
  <|> pure (statementNode .raise t.pos [] [])

def names : Reading (List Token) := sepBy1 name (symbol ",")

def scopeStatement (lexeme : String) (kind : StmtKind) : Reading Stmt := do
  let t ← keyword lexeme
  let _ ← names
  return statementNode kind t.pos [] []

def deleteStatement : Reading Stmt :=
  (do
    let t ← keyword "del"
    let es ← deletionTargets g
    ahead (symbol ";" <|> lineEnd)
    return statementNode .delete t.pos (all .target es) [])
  <|> diagnose (do
    let _ ← keyword "del"
    let e ← starExpressions g
    complainTarget .deletion e)

def assertStatement : Reading Stmt := do
  let t ← keyword "assert"
  let test ← g .expression
  let value ← maybe (do
    let _ ← symbol ","
    g .expression)
  return statementNode .assert t.pos (test.withRole .test :: optional .value value) []

def otherName : Reading Unit := do
  let _ ← maybe (do
    let _ ← keyword "as"
    name)

def dottedAlias : Reading Unit := do
  let _ ← dotted
  otherName

def nameAliases : Reading (List Unit) :=
  sepBy1
    (do
      let _ ← name
      otherName)
    (symbol ",")

def importedNames : Reading Unit :=
  (do
    let _ ← symbol "("
    let _ ← nameAliases
    let _ ← maybe (symbol ",")
    let _ ← symbol ")")
  <|> (do
    let _ ← nameAliases
    notAhead (symbol ","))
  <|> (do let _ ← symbol "*")
  <|> diagnose (do
    let _ ← nameAliases
    let _ ← symbol ","
    let _ ← lineEnd
    complain .trailingImportComma)

def dots : Reading Token := symbol "." <|> symbol "..."

def importStatement : Reading Stmt :=
  (do
    let t ← keyword "import"
    let _ ← sepBy1 dottedAlias (symbol ",")
    return statementNode .importModules t.pos [] [])
  <|> (do
    let t ← keyword "from"
    (do
      let _ ← many dots
      let _ ← dotted
      let _ ← keyword "import"
      importedNames)
    <|> (do
      let _ ← many1 dots
      let _ ← keyword "import"
      importedNames)
    return statementNode .importNames t.pos [] [])

def expressionStatement (e : Reading Expr) : Reading Stmt := do
  let pos ← here
  let e ← e
  return statementNode .expression pos [e.withRole .value] []

def simpleStatement : Reading Stmt :=
  assignment g
    <|> expressionStatement (starExpressions g)
    <|> returnStatement g
    <|> importStatement
    <|> raiseStatement g
    <|> wordStatement "pass" .pass
    <|> deleteStatement g
    <|> expressionStatement (yieldExpression g)
    <|> assertStatement g
    <|> wordStatement "break" .break
    <|> wordStatement "continue" .continue
    <|> scopeStatement "global" .globalNames
    <|> scopeStatement "nonlocal" .nonlocalNames

/-- The simple statements of one line. -/
def statementLine : Reading (List Stmt) :=
  (do
    let s ← g .simpleStatement
    notAhead (symbol ";")
    let _ ← lineEnd
    return [s])
  <|> (do
    let ss ← sepBy1 (g .simpleStatement) (symbol ";")
    let _ ← maybe (symbol ";")
    let _ ← lineEnd
    return ss)

/-! ### Blocks -/

/-- Complains about a block that is missing where a line has ended. -/
def missingBlock (complaint : Complaint) : Reading Unit := do
  let _ ← lineEnd
  notAhead (ofKind .indent)
  complain complaint

def missingColon : Reading Unit := do
  let _ ← lineEnd
  complain (.expected ":")

/-- Looks for a line that ends where a colon should be, or a block that is missing behind it. -/
def headMisuse (what : String) (start : Token) : Reading Unit :=
  missingColon <|> (do
    let _ ← symbol ":"
    missingBlock (.expectedBlockAfter what start.pos.line))

def blockBehind : Reading (List Stmt) := do
  let _ ← symbol ":"
  g .block

def forcedBlock : Reading (List Stmt) := do
  let _ ← force ":"
  g .block

def elseBlock : Reading (List Stmt) :=
  diagnose (do
    let t ← keyword "else"
    let _ ← symbol ":"
    missingBlock (.expectedBlockAfter "'else' statement" t.pos.line))
  <|> (do
    let _ ← keyword "else"
    forcedBlock g)

def maybeElse : Reading (List Stmt) := do
  return block .otherwise ((← maybe (elseBlock g)).getD [])

/-- A condition with its block and what stands for the opposite. -/
def conditionalFrom (word what : String) : Reading Stmt :=
  diagnose (do
    let t ← keyword word
    let _ ← namedExpression g
    headMisuse what t)
  <|> (do
    let (t, test, body) ← condition
    let other ← g .elifClause
    return made t test body [other.withRole .otherwise])
  <|> (do
    let (t, test, body) ← condition
    return made t test body (← maybeElse g))
where
  condition : Reading (Token × Expr × List Stmt) := do
    let t ← keyword word
    let test ← namedExpression g
    return (t, test, ← blockBehind g)
  made (t : Token) (test : Expr) (body other : List Stmt) : Stmt :=
    statementNode .conditional t.pos [test.withRole .test] (block .body body ++ other)

def ifStatement : Reading Stmt := conditionalFrom g "if" "'if' statement"

def elifClause : Reading Stmt := conditionalFrom g "elif" "'elif' statement"

def whileStatement : Reading Stmt :=
  diagnose (do
    let t ← keyword "while"
    let _ ← namedExpression g
    headMisuse "'while' statement" t)
  <|> (do
    let t ← keyword "while"
    let test ← namedExpression g
    let body ← blockBehind g
    return statementNode .whileLoop t.pos [test.withRole .test]
      (block .body body ++ (← maybeElse g)))

def maybeAsync : Reading Unit := do let _ ← maybe (keyword "async")

def forStatement : Reading Stmt := do
  let pos ← here
  diagnose misuse
    <|> commit (head (pure ())) (rest pos false)
      (commit (head (do let _ ← keyword "async")) (rest pos true)
        (diagnose (loopTargetMisuse g)))
where
  misuse : Reading Unit := do
    maybeAsync
    let t ← keyword "for"
    let _ ← starTargets g
    let _ ← keyword "in"
    let _ ← starExpressions g
    headMisuse "'for' statement" t
  head (before : Reading Unit) : Reading Expr := do
    before
    let _ ← keyword "for"
    let target ← starTargets g
    let _ ← keyword "in"
    return target
  rest (pos : Position) (isAsync : Bool) (target : Expr) : Reading Stmt := do
    let iterable ← starExpressions g
    let _ ← symbol ":"
    let _ ← maybe (ofKind .typeComment)
    let body ← g .block
    return statementNode (.forLoop isAsync) pos
      [target.withRole .target, iterable.withRole .iterable]
      (block .body body ++ (← maybeElse g))

/-! ### With -/

/-- A context and the target that it may be bound to. -/
def withItem : Reading (List Expr) :=
  (do
    let e ← g .expression
    let _ ← keyword "as"
    let t ← g .starTarget
    ahead itemEnd
    return [e.withRole .context, t.withRole .target])
  <|> diagnose (do
    let _ ← g .expression
    let _ ← keyword "as"
    let e ← g .expression
    ahead itemEnd
    complainTarget .assignment e)
  <|> (do
    let e ← g .expression
    return [e.withRole .context])
where
  itemEnd : Reading Token := symbol "," <|> symbol ")" <|> symbol ":"

/-- The head of a with statement, read to tell what is wrong behind it. -/
def withHeads (behind : Token → Reading Unit) : Reading Unit :=
  (do
    maybeAsync
    let t ← keyword "with"
    let _ ← sepBy1 (boundTo (g .expression)) (symbol ",")
    behind t)
  <|> (do
    maybeAsync
    let t ← keyword "with"
    let _ ← symbol "("
    let _ ← sepBy1 (boundTo (expressions g)) (symbol ",")
    let _ ← maybe (symbol ",")
    let _ ← symbol ")"
    behind t)
where
  boundTo (e : Reading Expr) : Reading Unit := do
    let _ ← e
    let _ ← maybe (do
      let _ ← keyword "as"
      g .starTarget)

def withStatement : Reading Stmt := do
  let pos ← here
  diagnose (withHeads g fun t => do
      let _ ← symbol ":"
      missingBlock (.expectedBlockAfter "'with' statement" t.pos.line))
    <|> grouped pos false (pure ())
    <|> bare pos false (pure ())
    <|> grouped pos true (do let _ ← keyword "async")
    <|> bare pos true (do let _ ← keyword "async")
    <|> diagnose (withHeads g fun _ => missingColon)
where
  grouped (pos : Position) (isAsync : Bool) (before : Reading Unit) : Reading Stmt := do
    before
    let _ ← keyword "with"
    let _ ← symbol "("
    let items ← sepBy1 (withItem g) (symbol ",")
    let _ ← maybe (symbol ",")
    let _ ← symbol ")"
    let body ← blockBehind g
    return statementNode (.withBlock isAsync) pos items.flatten (block .body body)
  bare (pos : Position) (isAsync : Bool) (before : Reading Unit) : Reading Stmt := do
    before
    let _ ← keyword "with"
    let items ← sepBy1 (withItem g) (symbol ",")
    let _ ← symbol ":"
    let _ ← maybe (ofKind .typeComment)
    let body ← g .block
    return statementNode (.withBlock isAsync) pos items.flatten (block .body body)

/-! ### Try -/

def boundName : Reading (Option Token) :=
  maybe (do
    let _ ← keyword "as"
    name)

def handlerNode (t : Token) (exception : Option Expr) (target : Option Token) (body : List Stmt) :
    Stmt :=
  .mk .handler .handler t.pos
    (optional .exception exception
      ++ optional .name (target.map fun n => node (.binding n.lexeme) t.pos []))
    (block .body body)

/-- Looks for what is wrong with the head of a handler. -/
def handlerMisuse : Reading Unit :=
  (do
    let _ ← keyword "except"
    let _ ← maybe (symbol "*")
    let e ← g .expression
    let _ ← symbol ","
    let _ ← expressions g
    let _ ← boundName
    let _ ← symbol ":"
    complainAt e.pos.line .unparenthesizedExceptions)
  <|> (do
    let _ ← keyword "except"
    let _ ← maybe (symbol "*")
    let _ ← g .expression
    let _ ← boundName
    missingColon)
  <|> (do
    let _ ← keyword "except"
    missingColon)
  <|> (do
    let _ ← keyword "except"
    let _ ← symbol "*"
    let _ ← lineEnd <|> symbol ":"
    complain .expectedExceptionTypes)

def handler : Reading Stmt :=
  diagnose
    ((do
      let t ← keyword "except"
      let _ ← g .expression
      let _ ← boundName
      let _ ← symbol ":"
      missingBlock (.expectedBlockAfter "'except' statement" t.pos.line))
    <|> (do
      let t ← keyword "except"
      let _ ← symbol ":"
      missingBlock (.expectedBlockAfter "'except' statement" t.pos.line)))
  <|> (do
    let t ← keyword "except"
    let e ← g .expression
    let target ← boundName
    return handlerNode t e target (← blockBehind g))
  <|> (do
    let t ← keyword "except"
    return handlerNode t none none (← blockBehind g))
  <|> diagnose (handlerMisuse g)

def groupHandler : Reading Stmt :=
  diagnose (do
    let t ← keyword "except"
    let _ ← symbol "*"
    let _ ← g .expression
    let _ ← boundName
    let _ ← symbol ":"
    missingBlock (.expectedBlockAfter "'except*' statement" t.pos.line))
  <|> (do
    let t ← keyword "except"
    let _ ← symbol "*"
    let e ← g .expression
    let target ← boundName
    return handlerNode t e target (← blockBehind g))
  <|> diagnose (handlerMisuse g)

def finallyBlock : Reading (List Stmt) :=
  diagnose (do
    let t ← keyword "finally"
    let _ ← symbol ":"
    missingBlock (.expectedBlockAfter "'finally' statement" t.pos.line))
  <|> (do
    let _ ← keyword "finally"
    forcedBlock g)

def tryMisuse : Reading Unit :=
  (do
    let t ← keyword "try"
    let _ ← symbol ":"
    missingBlock (.expectedBlockAfter "'try' statement" t.pos.line))
  <|> (do
    let _ ← keyword "try"
    let _ ← blockBehind g
    notAhead (keyword "except" <|> keyword "finally")
    complain .expectedHandler)
  <|> (do
    let _ ← keyword "try"
    let _ ← symbol ":"
    let _ ← many (g .block)
    (do
      let _ ← many1 (handler g)
      let _ ← groupHandler g)
    <|> (do
      let _ ← many1 (groupHandler g)
      let _ ← handler g)
    complain .mixedHandlers)

def tryStatement : Reading Stmt :=
  diagnose (tryMisuse g)
  <|> (do
    let t ← keyword "try"
    let body ← forcedBlock g
    let final ← finallyBlock g
    return statementNode (.tryBlock false) t.pos [] (block .body body ++ block .final final))
  <|> handled false (handler g)
  <|> handled true (groupHandler g)
where
  handled (isGroup : Bool) (handler : Reading Stmt) : Reading Stmt := do
    let t ← keyword "try"
    let body ← forcedBlock g
    let handlers ← many1 handler
    let other ← maybeElse g
    let final ← maybe (finallyBlock g)
    return statementNode (.tryBlock isGroup) t.pos []
      (block .body body ++ handlers ++ other ++ block .final (final.getD []))

/-! ### Match -/

def subject : Reading Expr :=
  (do
    let pos ← here
    let e ← starNamedExpression g
    let _ ← symbol ","
    let es ← maybe (starNamedExpressions g)
    return node .tuple pos (all .element (e :: es.getD [])))
  <|> namedExpression g

def guard : Reading Expr := do
  let _ ← keyword "if"
  namedExpression g

def matchCase : Reading Stmt :=
  diagnose (do
    let t ← softKeyword "case"
    let _ ← patterns g
    let _ ← maybe (guard g)
    headMisuse "'case' statement" t)
  <|> (do
    let t ← softKeyword "case"
    let p ← patterns g
    let condition ← maybe (guard g)
    let body ← blockBehind g
    return .mk .case .matchCase t.pos (p.withRole .pattern :: optional .guard condition)
      (block .body body))

def matchStatement : Reading Stmt :=
  (do
    let t ← softKeyword "match"
    let e ← subject g
    let _ ← symbol ":"
    let _ ← lineEnd
    let _ ← ofKind .indent
    let cases ← many1 (matchCase g)
    let _ ← ofKind .dedent
    return statementNode .matchBlock t.pos [e.withRole .subject] cases)
  <|> diagnose (do
    let t ← softKeyword "match"
    let _ ← subject g
    headMisuse "'match' statement" t)

/-! ### Functions and classes -/

/-- A text that stands alone at the start documents what it stands in. -/
def isDocumentation (s : Stmt) : Bool :=
  s.kind == .expression && s.parts.any fun e =>
    match e.kind with
    | .constant (.text _) => true
    | _ => false

def withoutDocumentation : List Stmt → List Stmt
  | s :: rest => if isDocumentation s then rest else s :: rest
  | [] => []

def decorators : Reading (List Expr) :=
  many1 (do
    let _ ← symbol "@"
    let e ← namedExpression g
    let _ ← lineEnd
    return e.withRole .decorator)

def decoratorsNode : List Expr → List Expr
  | [] => []
  | e :: rest => [(node .decorators e.pos (e :: rest)).withRole .decorators]

def functionTypeComment : Reading Unit :=
  (do
    let _ ← lineEnd
    let _ ← ofKind .typeComment
    ahead (do
      let _ ← lineEnd
      ofKind .indent))
  <|> diagnose (do
    let _ ← ofKind .typeComment
    let _ ← lineEnd
    let _ ← ofKind .typeComment
    let _ ← lineEnd
    let _ ← ofKind .indent
    complain .twoTypeComments)
  <|> (do let _ ← ofKind .typeComment)

def returns : Reading (Option Expr) :=
  maybe (do
    let _ ← symbol "->"
    g .expression)

/-- A function stands on the line of its first decorator. -/
def functionNode (decorators : List Expr) (isAsync : Bool) (pos : Position) (name : String)
    (ps : ParameterParts) (result : Option Expr) (body : List Stmt) : Stmt :=
  let line := (decorators.head?.map (·.pos.line)).getD pos.line
  statementNode (.functionDef name isAsync) ⟨line, pos.column⟩
    (decoratorsNode decorators ++ ps.toNode pos :: optional .returns result)
    (block .body (withoutDocumentation body))

def functionFrom (decorators : List Expr) : Reading Stmt := do
  let pos ← here
  diagnose (do
      maybeAsync
      let t ← keyword "def"
      let _ ← name
      let _ ← symbol "("
      let _ ← maybe (parameters g .function)
      let _ ← symbol ")"
      let _ ← returns g
      let _ ← symbol ":"
      missingBlock (.expectedBlockAfter "function definition" t.pos.line))
    <|> definition pos false
    <|> (do
      let _ ← keyword "async"
      definition pos true)
where
  definition (pos : Position) (isAsync : Bool) : Reading Stmt := do
    let _ ← keyword "def"
    let n ← name
    let _ ← force "("
    let ps ← maybe (parameters g .function)
    let _ ← symbol ")"
    let result ← returns g
    let _ ← force ":"
    let _ ← maybe functionTypeComment
    let body ← g .block
    return functionNode decorators isAsync pos n.lexeme (ps.getD .empty) result body

def functionDefinition : Reading Stmt :=
  (do functionFrom g (← decorators g)) <|> functionFrom g []

/-- Bases and keywords of a class, apart from what makes it. -/
def bases (arguments : List Expr) : List Expr :=
  (arguments.filter fun e => e.kind ≠ .keyword "metaclass").map fun e =>
    if e.role = .argument then e.withRole .base else e

def maybeArguments : Reading (List Expr) := do
  return (← maybe (parenthesizedArguments g)).getD []

def classFrom (decorators : List Expr) : Reading Stmt :=
  diagnose (do
    let t ← keyword "class"
    let _ ← name
    let _ ← maybeArguments g
    headMisuse "class definition" t)
  <|> (do
    let t ← keyword "class"
    let n ← name
    let arguments ← maybeArguments g
    let body ← blockBehind g
    return statementNode (.classDef n.lexeme) t.pos (decoratorsNode decorators ++ bases arguments)
      (block .body (withoutDocumentation body)))

def classDefinition : Reading Stmt :=
  (do classFrom g (← decorators g)) <|> classFrom g []

/-! ### Rows of statements -/

def opens (words : List String) (p : Reading Stmt) : Reading Stmt := do
  ahead (token fun t => (t.kind == .keyword || t.kind == .symbol) && words.contains t.lexeme)
  p

def compoundStatement : Reading Stmt :=
  opens ["def", "@", "async"] (functionDefinition g)
    <|> opens ["if"] (ifStatement g)
    <|> opens ["class", "@"] (classDefinition g)
    <|> opens ["with", "async"] (withStatement g)
    <|> opens ["for", "async"] (forStatement g)
    <|> opens ["try"] (tryStatement g)
    <|> opens ["while"] (whileStatement g)
    <|> matchStatement g

def statement : Reading (List Stmt) :=
  (do return [← compoundStatement g]) <|> statementLine g

def statements : Reading (List Stmt) := do return (← many1 (statement g)).flatten

def indentedBlock : Reading (List Stmt) :=
  (do
    let _ ← lineEnd
    let _ ← ofKind .indent
    let ss ← statements g
    let _ ← ofKind .dedent
    return ss)
  <|> statementLine g
  <|> diagnose (missingBlock .expectedBlock)

/-- A whole text. -/
def moduleText : Reading Stmt := do
  let ss ← maybe (statements g)
  let _ ← ofKind .endMark
  return .mk .root .module ⟨0, 0⟩ [] (block .body (withoutDocumentation (ss.getD [])))

end SourceConventions.Syntax.Grammar
