import SourceConventions.Syntax.Grammar.Listing

/-!
# Parameters

Functions and lambdas have the same parameters, but those of a lambda end at a colon and have
neither annotations nor type comments.
-/

namespace SourceConventions.Syntax.Grammar

open Reading

/-- Where parameters stand. -/
inductive ParameterPlace where
  | function
  | lambda
  deriving DecidableEq, Repr

/-- The symbol behind the last parameter. -/
def ParameterPlace.closing : ParameterPlace → String
  | .function => ")"
  | .lambda => ":"

/-- One parameter with what is written to it. -/
structure ParameterPart where
  name : String
  pos : Position
  hint : Option Expr
  default : Option Expr

structure ParameterParts where
  positionalOnly : List ParameterPart
  positional : List ParameterPart
  rest : Option ParameterPart
  keywordOnly : List ParameterPart
  keywords : Option ParameterPart

namespace ParameterPart

def declared (p : ParameterPart) : Parameter :=
  ⟨p.name, p.pos, p.hint.isSome, p.default.isSome⟩

def restDeclared (p : ParameterPart) : RestParameter := ⟨p.name, p.hint.isSome⟩

def nameNode (p : ParameterPart) : Expr := .mk .parameter (.binding p.name) p.pos []

end ParameterPart

namespace ParameterParts

def empty : ParameterParts := ⟨[], [], none, [], none⟩

def signature (ps : ParameterParts) : Signature where
  positionalOnly := ps.positionalOnly.map ParameterPart.declared
  positional := ps.positional.map ParameterPart.declared
  rest := ps.rest.map ParameterPart.restDeclared
  keywordOnly := ps.keywordOnly.map ParameterPart.declared
  keywords := ps.keywords.map ParameterPart.restDeclared

def hints (ps : List ParameterPart) : List Expr :=
  all .hint (ps.filterMap ParameterPart.hint)

/-- Names, defaults and annotations in the order in which they are visited. -/
def toNode (pos : Position) (ps : ParameterParts) : Expr :=
  .mk .arguments (.arguments ps.signature) pos
    (ps.positionalOnly.map ParameterPart.nameNode
      ++ hints ps.positionalOnly
      ++ ps.positional.map ParameterPart.nameNode
      ++ all .default ((ps.positionalOnly ++ ps.positional).filterMap ParameterPart.default)
      ++ ps.keywordOnly.map ParameterPart.nameNode
      ++ all .keywordDefault (ps.keywordOnly.filterMap ParameterPart.default)
      ++ hints ps.positional
      ++ hints ps.rest.toList
      ++ hints ps.keywords.toList
      ++ hints ps.keywordOnly)

end ParameterParts

variable (g : Grammar) (place : ParameterPlace)

/-- Ends a parameter: a comma, or nothing before the closing symbol. -/
def parameterEnd : Reading Unit :=
  (do
    let _ ← symbol ","
    typeComment)
  <|> (do
    typeComment
    ahead (symbol place.closing))
where
  typeComment : Reading Unit := do
    if place = .function then
      let _ ← maybe (ofKind .typeComment)

def annotated (hint : Reading Expr) : Reading Expr := do
  let _ ← symbol ":"
  hint

/-- A name, annotated in a function if it likes. -/
def parameter : Reading ParameterPart := do
  let t ← name
  let hint ←
    match place with
    | .function => maybe (annotated (g .expression))
    | .lambda => pure none
  return ⟨t.lexeme, t.pos, hint, none⟩

def defaultValue : Reading Expr :=
  (do
    let _ ← symbol "="
    g .expression)
  <|> diagnose (do
    let t ← symbol "="
    ahead (symbol ")" <|> symbol ",")
    complainAt t.pos.line .missingDefault)

def parameterAlone : Reading ParameterPart := do
  let p ← parameter g place
  parameterEnd place
  return p

def parameterWithDefault : Reading ParameterPart := do
  let p ← parameter g place
  let value ← defaultValue g
  parameterEnd place
  return { p with default := some value }

def parameterMaybeDefault : Reading ParameterPart := do
  let p ← parameter g place
  let value ← maybe (defaultValue g)
  parameterEnd place
  return { p with default := value }

/-- A parameter for the rest may have a starred annotation. -/
def parameterStarAnnotated : Reading ParameterPart := do
  let t ← name
  let hint ← annotated (g .starExpression)
  parameterEnd place
  return ⟨t.lexeme, t.pos, some hint, none⟩

/-- The slash behind parameters that have no name for the caller. -/
def slash : Reading Unit :=
  (do
    let _ ← symbol "/"
    let _ ← symbol ",")
  <|> (do
    let _ ← symbol "/"
    ahead (symbol place.closing))

def slashAlone : Reading (List ParameterPart) := do
  let ps ← many1 (parameterAlone g place)
  slash place
  return ps

def slashWithDefault : Reading (List ParameterPart) := do
  let ps ← many (parameterAlone g place)
  let qs ← many1 (parameterWithDefault g place)
  slash place
  return ps ++ qs

/-! ### Parameters behind a star -/

/-- Looks for a star that ends a list, has a default or comes twice. -/
def starMisuse : Reading Unit :=
  (do
    let star ← symbol "*"
    let _ ← symbol place.closing <|> (do
      let _ ← symbol ","
      symbol place.closing <|> symbol "**")
    match place with
    | .function => complainAt star.pos.line .bareStar
    | .lambda => complain .bareStar)
  <|> (do
    if place = .lambda then failure
    let _ ← symbol "*"
    let _ ← symbol ","
    let _ ← ofKind .typeComment
    complain .bareStarTypeComment)
  <|> (do
    let _ ← symbol "*"
    let _ ← parameter g place
    let t ← symbol "="
    complainAt t.pos.line .starDefault)
  <|> (do
    let _ ← symbol "*"
    aloneOrComma
    let _ ← many (parameterMaybeDefault g place)
    let star ← symbol "*"
    aloneOrComma
    complainAt star.pos.line .starTwice)
where
  aloneOrComma : Reading Unit :=
    (do let _ ← parameterAlone g place) <|> (do let _ ← symbol ",")

/-- Looks for a default of the parameter that takes up keywords, and for anything behind it. -/
def keywordsMisuse : Reading Unit :=
  (do
    let _ ← symbol "**"
    let _ ← parameter g place
    let t ← symbol "="
    complainAt t.pos.line .keywordsDefault)
  <|> (do
    let _ ← symbol "**"
    let _ ← parameter g place
    let _ ← symbol ","
    let p ← parameter g place
    complainAt p.pos.line .afterKeywords)
  <|> (do
    let _ ← symbol "**"
    let _ ← parameter g place
    let _ ← symbol ","
    let t ← symbol "*" <|> symbol "**" <|> symbol "/"
    complainAt t.pos.line .afterKeywords)

def keywordsParameter : Reading ParameterPart :=
  diagnose (keywordsMisuse g place) <|> (do
    let _ ← symbol "**"
    parameterAlone g place)

/-- What follows the positional parameters. -/
def starParameters : Reading ParameterParts :=
  diagnose (starMisuse g place)
  <|> (do
    let _ ← symbol "*"
    let p ← parameterAlone g place
    behind (some p) (many (parameterMaybeDefault g place)))
  <|> (do
    if place = .lambda then failure
    let _ ← symbol "*"
    let p ← parameterStarAnnotated g place
    behind (some p) (many (parameterMaybeDefault g place)))
  <|> (do
    let _ ← symbol "*"
    let _ ← symbol ","
    behind none (many1 (parameterMaybeDefault g place)))
  <|> (do
    let p ← keywordsParameter g place
    return { ParameterParts.empty with keywords := some p })
where
  behind (rest : Option ParameterPart) (named : Reading (List ParameterPart)) :
      Reading ParameterParts := do
    let keywordOnly ← named
    let keywords ← maybe (keywordsParameter g place)
    return ⟨[], [], rest, keywordOnly, keywords⟩

/-! ### Whole lists -/

/-- Looks for parameters in a wrong order or in parentheses. -/
def parametersMisuse : Reading Unit :=
  (do
    let _ ← many (parameterAlone g place)
    let _ ← slashWithDefault g place <|> many1 (parameterWithDefault g place)
    let p ← parameterAlone g place
    complainAt p.pos.line .defaultOrder)
  <|> (do
    let _ ← many (parameterAlone g place)
    let t ← symbol "("
    match place with
    | .function => do let _ ← many1 (parameterAlone g place)
    | .lambda => do let _ ← sepBy1 (parameter g place) (symbol ",")
    let _ ← maybe (symbol ",")
    let _ ← symbol ")"
    complainAt t.pos.line (match place with
      | .function => .parenthesizedParameters
      | .lambda => .parenthesizedLambdaParameters))
  <|> (do
    let t ← symbol "/"
    let _ ← symbol ","
    complainAt t.pos.line .slashFirst)
  <|> (do
    let _ ← slashAlone g place <|> slashWithDefault g place
    let _ ← many (parameterMaybeDefault g place)
    let t ← symbol "/"
    complainAt t.pos.line .slashTwice)
  <|> (do
    let _ ← maybe (slashAlone g place <|> slashWithDefault g place)
    let _ ← many (parameterMaybeDefault g place)
    let _ ← symbol "*"
    (do let _ ← symbol ",") <|> (do let _ ← parameterAlone g place)
    let _ ← many (parameterMaybeDefault g place)
    let t ← symbol "/"
    complainAt t.pos.line .slashAfterStar)
  <|> (do
    let _ ← many1 (parameterMaybeDefault g place)
    let _ ← symbol "/"
    let t ← symbol "*"
    complainAt t.pos.line .slashWithoutComma)

def parameterParts : Reading ParameterParts :=
  (do
    let ps ← slashAlone g place
    let qs ← many (parameterAlone g place)
    let rs ← many (parameterWithDefault g place)
    withStar ps (qs ++ rs))
  <|> (do
    let ps ← slashWithDefault g place
    let rs ← many (parameterWithDefault g place)
    withStar ps rs)
  <|> (do
    let qs ← many1 (parameterAlone g place)
    let rs ← many (parameterWithDefault g place)
    withStar [] (qs ++ rs))
  <|> (do
    let rs ← many1 (parameterWithDefault g place)
    withStar [] rs)
  <|> starParameters g place
where
  withStar (positionalOnly positional : List ParameterPart) : Reading ParameterParts := do
    let star ← maybe (starParameters g place)
    return { star.getD .empty with positionalOnly, positional }

def parameters : Reading ParameterParts :=
  diagnose (parametersMisuse g place) <|> parameterParts g place

end SourceConventions.Syntax.Grammar
