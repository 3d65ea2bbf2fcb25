import SourceConventions.Number.Value

/-!
# Syntax trees

Expressions and statements are trees whose nodes carry a kind, the role they play in the node
above, a position and their children in the order in which they are visited. An expression holds
expressions only; a statement has expression parts first and then the statements of its blocks.
-/

namespace SourceConventions.Syntax

/-- A place in a text: a line from one and a column from zero, counted in octets of UTF-8. -/
structure Position where
  line : Nat
  column : Nat
  deriving DecidableEq, Repr, Inhabited

/-- What a node is to the node above it. -/
inductive Role where
  | root
  | body
  | otherwise
  | handler
  | final
  | case
  | decorators
  | decorator
  | arguments
  | returns
  | base
  | keyword
  | target
  | value
  | hint
  | test
  | iterable
  | context
  | subject
  | pattern
  | guard
  | exception
  | cause
  | name
  | parameter
  | default
  | keywordDefault
  | function
  | argument
  | operand
  | element
  | key
  | clause
  | condition
  | lower
  | upper
  | step
  | index
  | format
  deriving DecidableEq, Repr, Inhabited

inductive Constant where
  | nothing
  | bool (value : Bool)
  | ellipsis
  | number (value : Numeral)
  | text (value : String)
  | octets (value : List Nat)
  deriving DecidableEq, Repr, Inhabited

inductive LogicalOperator where
  | and
  | or
  deriving DecidableEq, Repr

inductive BinaryOperator where
  | add
  | subtract
  | multiply
  | matrixMultiply
  | divide
  | floorDivide
  | remainder
  | power
  | shiftLeft
  | shiftRight
  | bitOr
  | bitXor
  | bitAnd
  deriving DecidableEq, Repr

inductive UnaryOperator where
  | plus
  | minus
  | invert
  | not
  deriving DecidableEq, Repr

inductive Comparator where
  | equal
  | notEqual
  | less
  | lessEqual
  | greater
  | greaterEqual
  | isSame
  | isNotSame
  | isIn
  | notIn
  deriving DecidableEq, Repr

namespace LogicalOperator

def symbol : LogicalOperator → String
  | .and => "and"
  | .or => "or"

end LogicalOperator

namespace BinaryOperator

def symbol : BinaryOperator → String
  | .add => "+"
  | .subtract => "-"
  | .multiply => "*"
  | .matrixMultiply => "@"
  | .divide => "/"
  | .floorDivide => "//"
  | .remainder => "%"
  | .power => "**"
  | .shiftLeft => "<<"
  | .shiftRight => ">>"
  | .bitOr => "|"
  | .bitXor => "^"
  | .bitAnd => "&"

end BinaryOperator

namespace UnaryOperator

def symbol : UnaryOperator → String
  | .plus => "+"
  | .minus => "-"
  | .invert => "~"
  | .not => "not "

/-- Plus and minus belong to the number they stand before. -/
def isSign : UnaryOperator → Bool
  | .plus | .minus => true
  | _ => false

end UnaryOperator

namespace Comparator

def symbol : Comparator → String
  | .equal => "=="
  | .notEqual => "!="
  | .less => "<"
  | .lessEqual => "<="
  | .greater => ">"
  | .greaterEqual => ">="
  | .isSame => "is"
  | .isNotSame => "is not"
  | .isIn => "in"
  | .notIn => "not in"

end Comparator

/-- One named parameter of a signature. -/
structure Parameter where
  name : String
  pos : Position
  annotated : Bool
  defaulted : Bool
  deriving DecidableEq, Repr, Inhabited

/-- A parameter that takes up what is left over. -/
structure RestParameter where
  name : String
  annotated : Bool
  deriving DecidableEq, Repr, Inhabited

structure Signature where
  positionalOnly : List Parameter
  positional : List Parameter
  rest : Option RestParameter
  keywordOnly : List Parameter
  keywords : Option RestParameter
  deriving DecidableEq, Repr, Inhabited

inductive ExprKind where
  | name (id : String)
  /-- A name that is given a value. -/
  | binding (id : String)
  | deletion (id : String)
  | attribute (name : String)
  /-- An attribute that is set or deleted. -/
  | attributeTarget (name : String)
  | constant (value : Constant)
  /-- A text with placeholders. -/
  | joined
  | placeholder (conversion : Option Char)
  | logical (op : LogicalOperator)
  | walrus
  | binary (op : BinaryOperator)
  | unary (op : UnaryOperator)
  | lambda
  | conditional
  | dict
  /-- Stands where the key would be when a dictionary takes up another one. -/
  | unpackMark
  | set
  | list
  | tuple
  | listComprehension
  | setComprehension
  | dictComprehension
  | generator
  /-- One `for` of a comprehension with its conditions. -/
  | clause (isAsync : Bool)
  | await
  | yield
  | yieldFrom
  | comparison (ops : List Comparator)
  | call
  | keyword (name : Option String)
  | subscript
  | slice
  | starred
  | arguments (signature : Signature)
  | decorators
  | valuePattern
  | constantPattern
  | sequencePattern
  | mappingPattern
  | classPattern (keywords : List String)
  | starPattern
  | capturePattern
  | choicePattern
  deriving DecidableEq, Repr, Inhabited

inductive StmtKind where
  | module
  | functionDef (name : String) (isAsync : Bool)
  | classDef (name : String)
  | return
  | delete
  | assign
  | augmentedAssign (op : BinaryOperator)
  | annotatedAssign
  | forLoop (isAsync : Bool)
  | whileLoop
  | conditional
  | withBlock (isAsync : Bool)
  | matchBlock
  | matchCase
  | raise
  | tryBlock (isGroup : Bool)
  | handler
  | assert
  | importModules
  | importNames
  | globalNames
  | nonlocalNames
  | expression
  | pass
  | break
  | continue
  deriving DecidableEq, Repr, Inhabited

namespace StmtKind

/-- A module and the cases of a match are no statements. -/
def isStatement : StmtKind → Bool
  | .module | .matchCase => false
  | _ => true

end StmtKind

inductive Expr where
  | mk (role : Role) (kind : ExprKind) (pos : Position) (children : List Expr)
  deriving Repr

namespace Expr

def role : Expr → Role
  | mk r _ _ _ => r

def kind : Expr → ExprKind
  | mk _ k _ _ => k

def pos : Expr → Position
  | mk _ _ p _ => p

def children : Expr → List Expr
  | mk _ _ _ c => c

instance : Inhabited Expr := ⟨mk .root default default []⟩

/-- The same expression in another role. -/
def withRole (r : Role) : Expr → Expr
  | mk _ k p c => mk r k p c

@[simp] theorem role_withRole (r : Role) (e : Expr) : (e.withRole r).role = r := by
  cases e; rfl

@[simp] theorem kind_withRole (r : Role) (e : Expr) : (e.withRole r).kind = e.kind := by
  cases e; rfl

@[simp] theorem children_withRole (r : Role) (e : Expr) :
    (e.withRole r).children = e.children := by
  cases e; rfl

/-- The first child in a role. -/
def child? (r : Role) (e : Expr) : Option Expr := e.children.find? (·.role = r)

def childrenIn (r : Role) (e : Expr) : List Expr := e.children.filter (·.role = r)

mutual

/-- The number of nodes on the longest way down. -/
def depth : Expr → Nat
  | mk _ _ _ c => depthOfAll c + 1

def depthOfAll : List Expr → Nat
  | [] => 0
  | e :: rest => max (depth e) (depthOfAll rest)

end

end Expr

inductive Stmt where
  | mk (role : Role) (kind : StmtKind) (pos : Position) (parts : List Expr) (body : List Stmt)
  deriving Repr

namespace Stmt

def role : Stmt → Role
  | mk r _ _ _ _ => r

def kind : Stmt → StmtKind
  | mk _ k _ _ _ => k

def pos : Stmt → Position
  | mk _ _ p _ _ => p

/-- The expressions that belong to the statement itself. -/
def parts : Stmt → List Expr
  | mk _ _ _ p _ => p

/-- The statements of all blocks. -/
def body : Stmt → List Stmt
  | mk _ _ _ _ b => b

instance : Inhabited Stmt := ⟨mk .root default default [] []⟩

def withRole (r : Role) : Stmt → Stmt
  | mk _ k p e b => mk r k p e b

@[simp] theorem role_withRole (r : Role) (s : Stmt) : (s.withRole r).role = r := by
  cases s; rfl

@[simp] theorem kind_withRole (r : Role) (s : Stmt) : (s.withRole r).kind = s.kind := by
  cases s; rfl

def part? (r : Role) (s : Stmt) : Option Expr := s.parts.find? (·.role = r)

def partsIn (r : Role) (s : Stmt) : List Expr := s.parts.filter (·.role = r)

def blockIn (r : Role) (s : Stmt) : List Stmt := s.body.filter (·.role = r)

mutual

/-- The number of nodes on the longest way down. -/
def depth : Stmt → Nat
  | mk _ _ _ e b => max (Expr.depthOfAll e) (depthOfAll b) + 1

def depthOfAll : List Stmt → Nat
  | [] => 0
  | s :: rest => max (depth s) (depthOfAll rest)

end

end Stmt

end SourceConventions.Syntax
