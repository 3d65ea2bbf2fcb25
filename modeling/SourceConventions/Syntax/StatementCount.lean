import SourceConventions.Syntax.Place

/-!
# Counting statements

`Stmt.count` goes through all nodes in the blocks of a statement with a stack, the expressions
among them. Functions, classes and lambdas are looked at from the outside only, so that a function
or a class counts once, whatever is in it.
-/

namespace SourceConventions.Syntax

mutual

/-- The number of nodes in a tree, its root included. -/
def Expr.size : Expr → Nat
  | .mk _ _ _ c => Expr.sizeOfAll c + 1

def Expr.sizeOfAll : List Expr → Nat
  | [] => 0
  | e :: rest => Expr.size e + Expr.sizeOfAll rest

end

mutual

def Stmt.size : Stmt → Nat
  | .mk _ _ _ e b => Expr.sizeOfAll e + Stmt.sizeOfAll b + 1

def Stmt.sizeOfAll : List Stmt → Nat
  | [] => 0
  | s :: rest => Stmt.size s + Stmt.sizeOfAll rest

end

namespace Node

def size : Node → Nat
  | .expr e => e.size
  | .stmt s => s.size

/-- What nodes come to together, each being worth a number. -/
def sumOf (worth : Node → Nat) : List Node → Nat
  | [] => 0
  | n :: rest => worth n + sumOf worth rest

@[simp] theorem sumOf_nil (worth : Node → Nat) : sumOf worth [] = 0 := rfl

@[simp] theorem sumOf_cons (worth : Node → Nat) (n : Node) (rest : List Node) :
    sumOf worth (n :: rest) = worth n + sumOf worth rest := rfl

@[simp] theorem sumOf_append (worth : Node → Nat) (a b : List Node) :
    sumOf worth (a ++ b) = sumOf worth a + sumOf worth b := by
  induction a with
  | nil => simp
  | cons n rest ih => simp [ih, Nat.add_assoc]

theorem sumOf_perm (worth : Node → Nat) {a b : List Node} (h : a.Perm b) :
    sumOf worth a = sumOf worth b := by
  induction h with
  | nil => rfl
  | cons n _ ih => simp [ih]
  | swap n m rest => simp only [sumOf_cons]; omega
  | trans _ _ ih ih' => exact ih.trans ih'

theorem sumOf_size_map_expr (l : List Expr) : sumOf size (l.map .expr) = Expr.sizeOfAll l := by
  induction l with
  | nil => rfl
  | cons e rest ih => simp [ih, size, Expr.sizeOfAll]

theorem sumOf_size_map_stmt (l : List Stmt) : sumOf size (l.map .stmt) = Stmt.sizeOfAll l := by
  induction l with
  | nil => rfl
  | cons s rest ih => simp [ih, size, Stmt.sizeOfAll]

/-- The nodes below a node, in the order in which they are visited. -/
def children : Node → List Node
  | .expr e => e.children.map .expr
  | .stmt s => s.parts.map .expr ++ s.body.map .stmt

/-- Functions, classes and lambdas are looked at from the outside. -/
def isSealed (n : Node) : Bool := n.isFunction || n.isClass || n.isLambda

/-- What is to be looked at inside a node. -/
def inside (n : Node) : List Node := if n.isSealed then [] else n.children

theorem size_eq (n : Node) : n.size = sumOf size n.children + 1 := by
  cases n with
  | expr e =>
    cases e
    simp [size, Expr.size, children, Expr.children, sumOf_size_map_expr]
  | stmt s =>
    cases s
    simp [size, Stmt.size, children, Stmt.parts, Stmt.body, sumOf_size_map_expr,
      sumOf_size_map_stmt]

theorem sumOf_size_inside (n : Node) : sumOf size n.inside < n.size := by
  rw [size_eq, inside]
  split
  · simp
  · omega

/-- Counts the statements among the nodes of a stack and inside them, on top of a total. The top of
the stack stands first. -/
def countFrom (total : Nat) : List Node → Nat
  | [] => total
  | n :: pending =>
    countFrom (if n.isStatement then total + 1 else total) (n.inside.reverse ++ pending)
termination_by pending => sumOf size pending
decreasing_by
  rw [sumOf_append, sumOf_perm size n.inside.reverse_perm, sumOf_cons]
  have := sumOf_size_inside n
  omega

end Node

/-- The number of statements in the blocks of a statement. -/
def Stmt.count (s : Stmt) : Nat := Node.countFrom 0 (s.body.map .stmt).reverse

end SourceConventions.Syntax
