import SourceConventions.Syntax.Tree

/-!
# Places in a tree

A place is a node with the nodes above it, the innermost first. `Stmt.places` lists the places of a
tree in pre-order, and `Place.scopes` finds the scopes to which a name at a place belongs.
-/

namespace SourceConventions.Syntax

inductive Node where
  | expr (e : Expr)
  | stmt (s : Stmt)
  deriving Repr

namespace Node

def isStatement : Node → Bool
  | .stmt s => s.kind.isStatement
  | .expr _ => false

def isClass : Node → Bool
  | .stmt s => match s.kind with
    | .classDef _ => true
    | _ => false
  | .expr _ => false

def isFunction : Node → Bool
  | .stmt s => match s.kind with
    | .functionDef _ _ => true
    | _ => false
  | .expr _ => false

/-- The name of a function or a class. -/
def definedName? : Node → Option String
  | .stmt s => match s.kind with
    | .functionDef n _ | .classDef n => some n
    | _ => none
  | .expr _ => none

/-- The kind of an expression. -/
def exprKind? : Node → Option ExprKind
  | .expr e => some e.kind
  | .stmt _ => none

end Node

structure Place where
  node : Node
  above : List Node
  deriving Repr

mutual

def Expr.places (above : List Node) : Expr → List Place
  | .mk r k p c =>
    ⟨.expr (.mk r k p c), above⟩ :: Expr.placesOfAll (.expr (.mk r k p c) :: above) c

def Expr.placesOfAll (above : List Node) : List Expr → List Place
  | [] => []
  | e :: rest => Expr.places above e ++ Expr.placesOfAll above rest

end

mutual

/-- The places of a statement, of its expressions and of the statements in its blocks. -/
def Stmt.places (above : List Node) : Stmt → List Place
  | .mk r k p e b =>
    let self : Node := .stmt (.mk r k p e b)
    ⟨self, above⟩ :: (Expr.placesOfAll (self :: above) e ++ Stmt.placesOfAll (self :: above) b)

def Stmt.placesOfAll (above : List Node) : List Stmt → List Place
  | [] => []
  | s :: rest => Stmt.places above s ++ Stmt.placesOfAll above rest

end

/-! ### Scopes -/

inductive ScopeKind where
  | module
  | classBody
  | function
  | comprehension
  deriving DecidableEq, Repr

def ScopeKind.name : ScopeKind → String
  | .module => "module"
  | .classBody => "class"
  | .function => "function"
  | .comprehension => "comprehension"

namespace Node

def isLambda : Node → Bool
  | .expr e => e.kind == .lambda
  | .stmt _ => false

/-- The kind of scope that a node opens; lambdas are functions. -/
def scopeKind? : Node → Option ScopeKind
  | .stmt s => match s.kind with
    | .module => some .module
    | .classDef _ => some .classBody
    | .functionDef _ _ => some .function
    | _ => none
  | .expr e => match e.kind with
    | .lambda => some .function
    | .listComprehension | .setComprehension | .dictComprehension | .generator =>
      some .comprehension
    | _ => none

/-- Arguments, keywords and clauses pass a walrus that stands in them directly on to the scope
around what they belong to. -/
def passesWalrus : Node → Bool
  | .expr e => match e.kind with
    | .arguments _ | .keyword _ | .clause _ => true
    | _ => false
  | .stmt _ => false

def isWalrus (n : Node) : Bool := n.exprKind? == some .walrus

def isDecorators (n : Node) : Bool := n.exprKind? == some .decorators

end Node

/-- The scopes among nodes, the innermost first, as a name below the first node sees them.
Decorators lie outside what they decorate. -/
def scopesAmong : List Node → List Place
  | [] => []
  | n :: m :: o :: rest =>
    if n.scopeKind?.isSome then ⟨n, m :: o :: rest⟩ :: scopesAmong (m :: o :: rest)
    else if n.isDecorators then scopesAmong (o :: rest)
    else if n.isWalrus && m.passesWalrus then scopesAmong rest
    else scopesAmong (m :: o :: rest)
  | n :: rest =>
    if n.scopeKind?.isSome then ⟨n, rest⟩ :: scopesAmong rest else scopesAmong rest

/-- The scopes of what stands at a place, the innermost first. -/
def Place.scopes (p : Place) : List Place := scopesAmong p.above

/-! ### Names of places -/

/-- The name of what belongs to no function or class. -/
def moduleName : String := "<module>"

/-- The names of the functions and classes among nodes, outermost first, between points. -/
def qualifiedName (nodes : List Node) : String :=
  match (nodes.filterMap Node.definedName?).reverse with
  | [] => moduleName
  | names => ".".intercalate names

/-- What the name of a scope without a name of its own ends in. -/
def anonymousSuffix? (n : Node) : Option String :=
  match n.scopeKind? with
  | some .comprehension => some ".<comprehension>"
  | _ => if n.isLambda then some ".<lambda>" else none

/-- The name of the first of some scopes; lambdas and comprehensions have that of the scope around
them in theirs. -/
def scopeName : List Place → String
  | [] => moduleName
  | p :: outer =>
    match anonymousSuffix? p.node with
    | some suffix => scopeName outer ++ suffix
    | none => qualifiedName (p.node :: p.above)

end SourceConventions.Syntax
