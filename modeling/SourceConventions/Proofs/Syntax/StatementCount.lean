import Mathlib.Data.List.Forall2
import Mathlib.Logic.Relation
import SourceConventions.Proofs.Syntax.Enclosing
import SourceConventions.Syntax.StatementCount

/-!
# What a count of statements comes to

A function or a class counts for one, and any other statement for one more than what is in its
blocks. The statements of a scope are counted as their sum, in whatever order the nodes of the scope
are looked at, and whatever stands in the functions, classes and lambdas inside.
-/

namespace SourceConventions.Syntax

namespace Stmt

mutual

/-- What a statement counts for. The cases of a match are parts of it and no statements. -/
def weight : Stmt → Nat
  | mk _ k _ _ b =>
    match k with
    | .functionDef _ _ | .classDef _ => 1
    | .module | .matchCase => weightOfAll b
    | _ => 1 + weightOfAll b

def weightOfAll : List Stmt → Nat
  | [] => 0
  | s :: rest => weight s + weightOfAll rest

end

theorem weightOfAll_append (a b : List Stmt) :
    weightOfAll (a ++ b) = weightOfAll a + weightOfAll b := by
  induction a with
  | nil => simp [weightOfAll]
  | cons s rest ih => simp [weightOfAll, ih, Nat.add_assoc]

/-- A statement counts for itself and, unless it is sealed, for what is in its blocks. -/
theorem weight_eq (s : Stmt) :
    s.weight = (if s.kind.isStatement then 1 else 0) +
      if (Node.stmt s).isSealed then 0 else weightOfAll s.body := by
  obtain ⟨r, k, pos, e, b⟩ := s
  cases k <;>
    simp [weight, kind, body, StmtKind.isStatement, Node.isSealed, Node.isFunction, Node.isClass,
      Node.isLambda]

end Stmt

/-! ### One look at a node -/

namespace Node

/-- What a node counts for with all that is inside it. -/
def weight : Node → Nat
  | .expr _ => 0
  | .stmt s => s.weight

theorem sumOf_weight_map_expr (l : List Expr) : sumOf weight (l.map .expr) = 0 := by
  induction l with
  | nil => rfl
  | cons e rest ih => simp [ih, weight]

theorem sumOf_weight_map_stmt (l : List Stmt) :
    sumOf weight (l.map .stmt) = Stmt.weightOfAll l := by
  induction l with
  | nil => rfl
  | cons s rest ih => simp [ih, weight, Stmt.weightOfAll]

theorem sumOf_weight_inside_expr (e : Expr) : sumOf weight (Node.expr e).inside = 0 := by
  rw [inside]
  split
  · rfl
  · exact sumOf_weight_map_expr e.children

theorem sumOf_weight_inside_stmt (s : Stmt) :
    sumOf weight (Node.stmt s).inside =
      if (Node.stmt s).isSealed then 0 else Stmt.weightOfAll s.body := by
  rw [inside]
  split
  · rfl
  · rw [children, sumOf_append, sumOf_weight_map_expr, sumOf_weight_map_stmt, Nat.zero_add]

/-- A node counts for itself, if it is a statement, and for what is to be looked at inside it. -/
theorem weight_eq (n : Node) :
    n.weight = (if n.isStatement then 1 else 0) + sumOf weight n.inside := by
  cases n with
  | expr e =>
    rw [sumOf_weight_inside_expr]
    rfl
  | stmt s =>
    rw [sumOf_weight_inside_stmt]
    exact s.weight_eq

end Node

/-! ### Counting in any order -/

/-- How far a count has come: the statements found so far, and the nodes still to be looked at. -/
structure Tally where
  total : Nat
  pending : List Node

namespace Tally

/-- One look at any node that is pending. What is inside it joins the others, in any order. -/
inductive Step : Tally → Tally → Prop
  | look {total : Nat} {pending rest next : List Node} {n : Node}
      (htake : pending.Perm (n :: rest)) (hnext : next.Perm (n.inside ++ rest)) :
      Step ⟨total, pending⟩ ⟨if n.isStatement then total + 1 else total, next⟩

/-- What a count has found and will find. -/
def worth (t : Tally) : Nat := t.total + Node.sumOf Node.weight t.pending

variable {t t' : Tally}

/-- A look at a node only moves what the node itself counts for to the total. -/
theorem Step.worth_eq (h : Step t t') : t'.worth = t.worth := by
  obtain @⟨total, pending, rest, next, n, htake, hnext⟩ := h
  have hpending := Node.sumOf_perm Node.weight htake
  have hleft := Node.sumOf_perm Node.weight hnext
  rw [Node.sumOf_cons, Node.weight_eq n] at hpending
  rw [Node.sumOf_append] at hleft
  dsimp only [worth]
  split at hpending
  case isTrue hn =>
    rw [if_pos hn]
    omega
  case isFalse hn =>
    rw [if_neg hn]
    omega

theorem Step.size_lt (h : Step t t') :
    Node.sumOf Node.size t'.pending < Node.sumOf Node.size t.pending := by
  obtain ⟨htake, hnext⟩ := h
  rw [Node.sumOf_perm Node.size htake, Node.sumOf_perm Node.size hnext, Node.sumOf_append,
    Node.sumOf_cons]
  exact Nat.add_lt_add_right (Node.sumOf_size_inside _) _

/-- No count goes on for ever. -/
theorem wellFounded_step : WellFounded fun t' t : Tally => Step t t' :=
  Subrelation.wf Step.size_lt (measure fun t : Tally => Node.sumOf Node.size t.pending).wf

theorem exists_step (h : t.pending ≠ []) : ∃ t', Step t t' := by
  obtain ⟨total, pending⟩ := t
  obtain ⟨n, rest, rfl⟩ := List.exists_cons_of_ne_nil h
  exact ⟨_, .look (.refl _) (.refl _)⟩

theorem worth_eq_of_reaches (h : Relation.ReflTransGen Step t t') : t'.worth = t.worth := by
  induction h with
  | refl => rfl
  | tail _ hstep ih => exact hstep.worth_eq.trans ih

/-- A count that is through has found what was pending at its start. -/
theorem total_eq_of_reaches (h : Relation.ReflTransGen Step t t') (hend : t'.pending = []) :
    t'.total = t.worth := by
  rw [← worth_eq_of_reaches h, worth, hend, Node.sumOf_nil, Nat.add_zero]

/-- Counting with a stack is one way to count. -/
theorem reaches_countFrom (total : Nat) (pending : List Node) :
    Relation.ReflTransGen Step ⟨total, pending⟩ ⟨Node.countFrom total pending, []⟩ := by
  fun_induction Node.countFrom total pending with
  | case1 total => exact .refl
  | case2 total n pending ih =>
    -- the top is taken, and what is inside it is put on the rest backwards
    exact ih.head (.look (.refl _) (n.inside.reverse_perm.append_right pending))

end Tally

namespace Stmt

theorem count_eq (s : Stmt) : s.count = weightOfAll s.body := by
  have h := Tally.total_eq_of_reaches (Tally.reaches_countFrom 0 (s.body.map .stmt).reverse) rfl
  rwa [Tally.worth, Node.sumOf_perm Node.weight (List.reverse_perm _), Node.sumOf_weight_map_stmt,
    Nat.zero_add] at h

/-! ### Replacing what is not looked at -/

/-- Two statements that differ in what is inside functions and classes, and in expressions, such as
the lambdas in them. What is replaced may move what follows it. -/
inductive Recast : Stmt → Stmt → Prop
  | functionDef {r : Role} {name : String} {isAsync : Bool} {pos pos' : Position}
      {e e' : List Expr} {b b' : List Stmt} :
      Recast (mk r (.functionDef name isAsync) pos e b)
        (mk r (.functionDef name isAsync) pos' e' b')
  | classDef {r : Role} {name : String} {pos pos' : Position} {e e' : List Expr} {b b' : List Stmt} :
      Recast (mk r (.classDef name) pos e b) (mk r (.classDef name) pos' e' b')
  | blocks {r : Role} {k : StmtKind} {pos pos' : Position} {e e' : List Expr} {b b' : List Stmt}
      (hblocks : List.Forall₂ Recast b b') : Recast (mk r k pos e b) (mk r k pos' e' b')

mutual

theorem recast_refl : (s : Stmt) → Recast s s
  | mk _ _ _ _ b => .blocks (forall₂_recast_refl b)

theorem forall₂_recast_refl : (l : List Stmt) → List.Forall₂ Recast l l
  | [] => .nil
  | s :: rest => .cons (recast_refl s) (forall₂_recast_refl rest)

end

mutual

theorem weight_eq_of_recast : (s : Stmt) → {t : Stmt} → Recast s t → t.weight = s.weight
  | mk r k pos e b, t, h => by
    cases h with
    | functionDef => rfl
    | classDef => rfl
    | blocks hblocks =>
      have hb := weightOfAll_eq_of_recast b hblocks
      cases k <;> simp [weight, hb]

theorem weightOfAll_eq_of_recast :
    (l : List Stmt) → {l' : List Stmt} → List.Forall₂ Recast l l' → weightOfAll l' = weightOfAll l
  | [], _, h => by
    cases h
    rfl
  | s :: rest, _, h => by
    obtain ⟨t, rest', hs, hrest, rfl⟩ := List.forall₂_cons_left_iff.mp h
    rw [weightOfAll, weightOfAll, weight_eq_of_recast s hs, weightOfAll_eq_of_recast rest hrest]

end

/-- The statements of a scope come to the sum of what those of its body count for. Counting them with
a stack is one of many ways: every count ends, whichever node is looked at next, and all end with
the same number. The counts of joined bodies are added, and what is inside functions, classes and
lambdas does not matter. -/
theorem count_exact (s : Stmt) :
    s.count = weightOfAll s.body ∧
    Relation.ReflTransGen Tally.Step ⟨0, (s.body.map .stmt).reverse⟩ ⟨s.count, []⟩ ∧
    (∀ start : List Node, start.Perm (s.body.map .stmt) →
      Acc (fun t' t : Tally => Tally.Step t t') ⟨0, start⟩ ∧
      ∀ t : Tally, Relation.ReflTransGen Tally.Step ⟨0, start⟩ t →
        (t.pending = [] → t.total = s.count) ∧ (t.pending ≠ [] → ∃ t', Tally.Step t t')) ∧
    (∀ t u : Stmt, s.body = t.body ++ u.body → s.count = t.count + u.count) ∧
    ∀ t : Stmt, List.Forall₂ Recast s.body t.body → t.count = s.count := by
  refine ⟨s.count_eq, Tally.reaches_countFrom 0 _, fun start hstart => ?_, fun t u hbody => ?_,
    fun t ht => ?_⟩
  · refine ⟨Tally.wellFounded_step.apply _, fun t ht => ⟨fun hend => ?_, Tally.exists_step⟩⟩
    calc t.total = Tally.worth ⟨0, start⟩ := Tally.total_eq_of_reaches ht hend
      _ = Node.sumOf Node.weight (s.body.map .stmt) := by
        rw [Tally.worth, Node.sumOf_perm _ hstart, Nat.zero_add]
      _ = s.count := by rw [Node.sumOf_weight_map_stmt, s.count_eq]
  · rw [s.count_eq, t.count_eq, u.count_eq, hbody, weightOfAll_append]
  · rw [t.count_eq, s.count_eq, weightOfAll_eq_of_recast s.body ht]

/-- A statement without expressions. -/
def bare (k : StmtKind) (b : List Stmt) : Stmt := mk .body k default [] b

/-- A function with a function in it, a `try` with a handler and a `match` with a case. -/
def nestedScope (inner : List Stmt) : Stmt :=
  bare (.functionDef "outer" false)
    [bare (.functionDef "inner" false) inner,
      bare (.tryBlock false) [bare .pass [], bare .handler [bare .raise []]],
      bare .matchBlock [bare .matchCase [bare .return []]]]

/-- A queue in place of the stack finds the same seven statements. -/
theorem count_of_nestedScope :
    (nestedScope []).count = 7 ∧
    (nestedScope [bare .pass []]).count = (nestedScope []).count ∧
    ∃ front back : Stmt, (nestedScope []).body = front.body ++ back.body ∧
      (nestedScope []).count = front.count + back.count := by
  obtain ⟨-, -, hcounts, hjoined, hrecast⟩ := count_exact (nestedScope [])
  have look {total : Nat} {n : Node} {rest : List Node} :
      Tally.Step ⟨total, n :: rest⟩
        ⟨if n.isStatement then total + 1 else total, rest ++ n.inside⟩ :=
    .look (.refl _) List.perm_append_comm
  have hqueue : Relation.ReflTransGen Tally.Step
      ⟨0, (nestedScope []).body.map .stmt⟩ ⟨7, []⟩ :=
    .head look (.head look (.head look (.head look
      (.head look (.head look (.head look (.head look .refl)))))))
  refine ⟨(((hcounts _ (.refl _)).2 _ hqueue).1 rfl).symm, hrecast _ ?_, ?_⟩
  · exact .cons .functionDef (forall₂_recast_refl _)
  · exact ⟨bare .module ((nestedScope []).body.take 1), bare .module ((nestedScope []).body.drop 1),
      rfl, hjoined _ _ rfl⟩

end Stmt

/-! ### Counting by places -/

/-- A statement with no function, class or lambda around it. -/
def Place.isCounted (p : Place) : Bool := p.node.isStatement && p.above.all (!·.isSealed)

theorem Expr.countP_placesOfAll (above : List Node) (l : List Expr) :
    (Expr.placesOfAll above l).countP Place.isCounted = 0 := by
  refine List.countP_eq_zero.mpr fun p hp => ?_
  obtain ⟨e, he⟩ := Expr.node_of_mem_placesOfAll l hp
  simp [Place.isCounted, he, Node.isStatement]

namespace Stmt

mutual

theorem countP_places (above : List Node) : (s : Stmt) →
    (s.places above).countP Place.isCounted =
      if above.all (!·.isSealed) then s.weight else 0
  | mk r k pos e b => by
    rw [places, List.countP_cons, List.countP_append, Expr.countP_placesOfAll,
      countP_placesOfAll _ b, List.all_cons, weight_eq, Place.isCounted]
    -- what is sealed around the statement hides it, and the statement itself may hide its blocks
    cases above.all (!·.isSealed) <;> cases (Node.stmt (mk r k pos e b)).isSealed <;>
      simp [Node.isStatement, body, Nat.add_comm]

theorem countP_placesOfAll (above : List Node) : (l : List Stmt) →
    (placesOfAll above l).countP Place.isCounted =
      if above.all (!·.isSealed) then weightOfAll l else 0
  | [] => by simp [placesOfAll, weightOfAll]
  | s :: rest => by
    rw [placesOfAll, List.countP_append, countP_places above s, countP_placesOfAll above rest]
    split <;> simp [weightOfAll]

end

/-- A scope counts the statements in it that have no function, class or lambda of its own around
them. -/
theorem count_eq_countP_places (s : Stmt) :
    s.count = (placesOfAll [] s.body).countP Place.isCounted := by
  rw [s.count_eq, countP_placesOfAll]
  rfl

end Stmt

end SourceConventions.Syntax
