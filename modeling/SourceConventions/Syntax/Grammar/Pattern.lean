import SourceConventions.Syntax.Grammar.Expression

/-!
# Patterns

What may stand behind `case`.
-/

namespace SourceConventions.Syntax.Grammar

open Reading

variable (g : Grammar)

/-! ### Literals and values -/

def isImaginary : Expr → Bool
  | .mk _ (.constant (.number (.imaginary _ _))) _ _ => true
  | _ => false

def realNumber : Reading Expr := do
  let e ← number
  if isImaginary e then complainAt e.pos.line .realPart
  return e

def imaginaryNumber : Reading Expr := do
  let e ← number
  if !isImaginary e then complainAt e.pos.line .imaginaryPart
  return e

/-- A number that may have a minus before it. -/
def maybeNegated (n : Reading Expr) : Reading Expr :=
  n <|> (do
    let t ← symbol "-"
    let e ← n
    return unaryNode t.pos .minus e)

def complexNumber : Reading Expr := do
  let pos ← here
  let a ← maybeNegated realNumber
  let op ← operator [.add, .subtract]
  let b ← imaginaryNumber
  return binaryNode pos op a b

def numberAlone : Reading Expr := do
  let e ← maybeNegated number
  notAhead (symbol "+" <|> symbol "-")
  return e

def singleton : Reading Expr := do
  let t ← keyword "None" <|> keyword "True" <|> keyword "False"
  match constant t with
  | some c => return node (.constant c) t.pos []
  | none => failure

def valueNode (e : Expr) : Expr := node .valuePattern e.pos [e.withRole .value]

def literalPattern : Reading Expr :=
  (valueNode <$> numberAlone) <|> (valueNode <$> complexNumber) <|> (valueNode <$> g .texts)
    <|> (do return node .constantPattern (← singleton).pos [])

/-- What may be the key of a mapping. -/
def literalKey : Reading Expr := numberAlone <|> complexNumber <|> g .texts <|> singleton

/-- A name with at least one attribute. -/
def dottedValue : Reading Expr := do
  let e ← dotted
  match e.kind with
  | .attribute _ => return e
  | _ => failure

def bindsNothing : Reading Unit := notAhead (symbol "." <|> symbol "(" <|> symbol "=")

def captureTarget : Reading Token := do
  notAhead (softKeyword "_")
  let t ← name
  bindsNothing
  return t

def captureNode (pos : Position) (pattern : Option Expr) (target : Option Token) : Expr :=
  node .capturePattern pos
    (optional .pattern pattern
      ++ optional .name (target.map fun t => node (.binding t.lexeme) pos []))

def valuePattern : Reading Expr := do
  let e ← dottedValue
  bindsNothing
  return valueNode e

/-! ### Patterns with parts -/

def orPattern : Reading Expr := do
  let pos ← here
  let ps ← sepBy1 (g .closedPattern) (symbol "|")
  match ps with
  | [p] => return p
  | ps => return node .choicePattern pos (all .pattern ps)

/-- Looks for something behind `as` that no value can be bound to. -/
def asMisuse : Reading Unit :=
  (do
    let _ ← orPattern g
    let _ ← keyword "as"
    let t ← softKeyword "_"
    complainAt t.pos.line .wildcardTarget)
  <|> (do
    let _ ← orPattern g
    let _ ← keyword "as"
    notAhead name
    let e ← g .expression
    complainAt e.pos.line .patternTarget)

def pattern : Reading Expr :=
  (do
    let pos ← here
    let p ← orPattern g
    let _ ← keyword "as"
    let t ← captureTarget
    return captureNode pos p t)
  <|> diagnose (asMisuse g) <|> orPattern g

def starPattern : Reading Expr := do
  let star ← symbol "*"
  (do
    let t ← captureTarget
    return node .starPattern star.pos [(node (.binding t.lexeme) star.pos []).withRole .name])
  <|> (do
    let _ ← softKeyword "_"
    return node .starPattern star.pos [])

def maybeStarred : Reading Expr := g .starPattern <|> pattern g

def patternRow : Reading (List Expr) := do
  let ps ← sepBy1 (maybeStarred g) (symbol ",")
  let _ ← maybe (symbol ",")
  return ps

/-- Patterns with a comma at least behind the first. -/
def openRow : Reading (List Expr) := do
  let p ← maybeStarred g
  let _ ← symbol ","
  let ps ← maybe (patternRow g)
  return p :: ps.getD []

def sequenceNode (pos : Position) (ps : List Expr) : Expr :=
  node .sequencePattern pos (all .pattern ps)

def groupPattern : Reading Expr := do
  let _ ← symbol "("
  let p ← pattern g
  let _ ← symbol ")"
  return p

def sequencePattern : Reading Expr :=
  (do
    let start ← symbol "["
    let ps ← maybe (patternRow g)
    let _ ← symbol "]"
    return sequenceNode start.pos (ps.getD []))
  <|> (do
    let start ← symbol "("
    let ps ← maybe (openRow g)
    let _ ← symbol ")"
    return sequenceNode start.pos (ps.getD []))

def keyPattern : Reading (Expr × Expr) := do
  let key ← literalKey g <|> dottedValue
  let _ ← symbol ":"
  return (key, ← pattern g)

def restTarget : Reading Token := do
  let _ ← symbol "**"
  captureTarget

/-- Keys come before the patterns of their values. -/
def mappingNode (pos : Position) (items : List (Expr × Expr)) (rest : Option Token) : Expr :=
  node .mappingPattern pos
    (all .key (items.map Prod.fst) ++ all .pattern (items.map Prod.snd)
      ++ optional .name (rest.map fun t => node (.binding t.lexeme) pos []))

def mappingPattern : Reading Expr := do
  let start ← symbol "\x7b"
  (do
    let _ ← symbol "\x7d"
    return mappingNode start.pos [] none)
  <|> (do
    let rest ← restTarget
    let _ ← maybe (symbol ",")
    let _ ← symbol "\x7d"
    return mappingNode start.pos [] rest)
  <|> (do
    let items ← sepBy1 (keyPattern g) (symbol ",")
    let _ ← symbol ","
    let rest ← restTarget
    let _ ← maybe (symbol ",")
    let _ ← symbol "\x7d"
    return mappingNode start.pos items rest)
  <|> (do
    let items ← sepBy1 (keyPattern g) (symbol ",")
    let _ ← maybe (symbol ",")
    let _ ← symbol "\x7d"
    return mappingNode start.pos items none)

def positionalPatterns : Reading (List Expr) := sepBy1 (pattern g) (symbol ",")

def keywordPatterns : Reading (List (String × Expr)) :=
  sepBy1
    (do
      let t ← name
      let _ ← symbol "="
      return (t.lexeme, ← pattern g))
    (symbol ",")

/-- Looks for positional patterns behind named ones. -/
def classMisuse : Reading Unit := do
  let _ ← dotted
  let _ ← symbol "("
  let _ ← maybe (do
    let _ ← positionalPatterns g
    symbol ",")
  let _ ← keywordPatterns g
  let _ ← symbol ","
  let pos ← here
  let _ ← positionalPatterns g
  complainAt pos.line .positionalPatterns

def classNode (cls : Expr) (ps : List Expr) (named : List (String × Expr)) : Expr :=
  node (.classPattern (named.map Prod.fst)) cls.pos
    (cls.withRole .value :: all .pattern (ps ++ named.map Prod.snd))

def classPattern : Reading Expr :=
  (do
    let cls ← dotted
    let _ ← symbol "("
    (do
      let _ ← symbol ")"
      return classNode cls [] [])
    <|> (do
      let ps ← positionalPatterns g
      closing
      return classNode cls ps [])
    <|> (do
      let named ← keywordPatterns g
      closing
      return classNode cls [] named)
    <|> (do
      let ps ← positionalPatterns g
      let _ ← symbol ","
      let named ← keywordPatterns g
      closing
      return classNode cls ps named))
  <|> diagnose (classMisuse g)
where
  closing : Reading Unit := do
    let _ ← maybe (symbol ",")
    let _ ← symbol ")"

def closedPattern : Reading Expr :=
  literalPattern g
    <|> (do
      let t ← captureTarget
      return captureNode t.pos none t)
    <|> (do
      let t ← softKeyword "_"
      return captureNode t.pos none none)
    <|> valuePattern <|> groupPattern g <|> sequencePattern g <|> mappingPattern g
    <|> classPattern g

/-- What stands behind `case`: one pattern or a bare row of them. -/
def patterns : Reading Expr :=
  (do
    let pos ← here
    return sequenceNode pos (← openRow g))
  <|> pattern g

end SourceConventions.Syntax.Grammar
