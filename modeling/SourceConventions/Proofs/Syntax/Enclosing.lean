import SourceConventions.Proofs.Syntax.Spots

/-!
# What stands around a node

Each node but the root is a child of the first of the nodes above it. Statements stand in statements
only, so that the scope around a statement is that of the nearest module, class or function above
it, whatever blocks lie between.
-/

namespace SourceConventions.Syntax

namespace Node

/-- A node is an immediate part of another one. -/
def HasChild : Node → Node → Prop
  | .expr e, .expr c => c ∈ e.children
  | .stmt s, .expr c => c ∈ s.parts
  | .stmt s, .stmt c => c ∈ s.body
  | .expr _, .stmt _ => False

def IsStmt (n : Node) : Prop := ∃ s, n = .stmt s

end Node

/-! ### Parents -/

/-- The node above a place has the node at the place as a child. -/
def Place.HasParent (p : Place) : Prop :=
  ∃ parent outer, p.above = parent :: outer ∧ parent.HasChild p.node

mutual

theorem Expr.hasParent_places {above : List Node} {p : Place} :
    (e : Expr) → p ∈ e.places above → p = ⟨.expr e, above⟩ ∨ p.HasParent
  | .mk r k pos c, hp => by
    rcases List.mem_cons.mp hp with rfl | hp
    · exact .inl rfl
    · exact .inr (Expr.hasParent_placesOfAll c (fun _ => id) hp)

theorem Expr.hasParent_placesOfAll {n : Node} {above : List Node} {p : Place} :
    (l : List Expr) → (∀ e ∈ l, n.HasChild (.expr e)) → p ∈ Expr.placesOfAll (n :: above) l →
      p.HasParent
  | e :: rest, hl, hp => by
    rcases List.mem_append.mp hp with hp | hp
    · rcases Expr.hasParent_places e hp with rfl | h
      · exact ⟨n, above, rfl, hl e List.mem_cons_self⟩
      · exact h
    · exact Expr.hasParent_placesOfAll rest (fun e he => hl e (List.mem_cons_of_mem _ he)) hp

end

mutual

theorem Stmt.hasParent_places {above : List Node} {p : Place} :
    (s : Stmt) → p ∈ s.places above → p = ⟨.stmt s, above⟩ ∨ p.HasParent
  | .mk r k pos e b, hp => by
    rcases List.mem_cons.mp hp with rfl | hp
    · exact .inl rfl
    · rcases List.mem_append.mp hp with hp | hp
      · exact .inr (Expr.hasParent_placesOfAll e (fun _ => id) hp)
      · exact .inr (Stmt.hasParent_placesOfAll b (fun _ => id) hp)

theorem Stmt.hasParent_placesOfAll {n : Node} {above : List Node} {p : Place} :
    (l : List Stmt) → (∀ s ∈ l, n.HasChild (.stmt s)) → p ∈ Stmt.placesOfAll (n :: above) l →
      p.HasParent
  | s :: rest, hl, hp => by
    rcases List.mem_append.mp hp with hp | hp
    · rcases Stmt.hasParent_places s hp with rfl | h
      · exact ⟨n, above, rfl, hl s List.mem_cons_self⟩
      · exact h
    · exact Stmt.hasParent_placesOfAll rest (fun s hs => hl s (List.mem_cons_of_mem _ hs)) hp

end

/-- The node above a node of a tree is a node of the tree. -/
theorem Stmt.parent_mem_places {tree : Stmt} {n parent : Node} {outer : List Node}
    (h : ⟨n, parent :: outer⟩ ∈ tree.places []) : ⟨parent, outer⟩ ∈ tree.places [] := by
  rw [← tree.map_place_spots []] at h ⊢
  obtain ⟨t, ht, hplace⟩ := List.mem_map.mp h
  exact List.mem_map.mpr
    ⟨_, tree.upTo_mem_spots ht (congrArg Place.above hplace) (List.suffix_refl _), rfl⟩

theorem Stmt.hasChild_of_mem_places {tree : Stmt} {n parent : Node} {outer : List Node}
    (h : ⟨n, parent :: outer⟩ ∈ tree.places []) : parent.HasChild n := by
  rcases Stmt.hasParent_places tree h with hroot | ⟨parent', outer', habove, hchild⟩
  · cases hroot
  · obtain ⟨rfl, -⟩ := List.cons.inj habove
    exact hchild

/-- What stands above a statement is a statement. -/
theorem Stmt.isStmt_above {tree : Stmt} {s : Stmt} {above : List Node}
    (h : ⟨.stmt s, above⟩ ∈ tree.places []) : ∀ n ∈ above, n.IsStmt := by
  induction above generalizing s with
  | nil => simp
  | cons parent outer ih =>
    cases parent with
    | expr e => exact (Stmt.hasChild_of_mem_places h).elim
    | stmt block => exact List.forall_mem_cons.mpr ⟨⟨block, rfl⟩, ih (Stmt.parent_mem_places h)⟩

mutual

/-- What stands in an expression is an expression. -/
theorem Expr.node_of_mem_places {above : List Node} {p : Place} :
    (e : Expr) → p ∈ e.places above → ∃ d, p.node = .expr d
  | .mk r k pos c, hp => by
    rcases List.mem_cons.mp hp with rfl | hp
    · exact ⟨_, rfl⟩
    · exact Expr.node_of_mem_placesOfAll c hp

theorem Expr.node_of_mem_placesOfAll {above : List Node} {p : Place} :
    (l : List Expr) → p ∈ Expr.placesOfAll above l → ∃ d, p.node = .expr d
  | e :: rest, hp => by
    rcases List.mem_append.mp hp with hp | hp
    · exact Expr.node_of_mem_places e hp
    · exact Expr.node_of_mem_placesOfAll rest hp

end

/-! ### Scopes of statements -/

namespace Node

theorem scopeKind?_of_isClass {n : Node} (h : n.isClass = true) :
    n.scopeKind? = some .classBody := by
  cases n with
  | expr e => cases h
  | stmt s =>
    rw [isClass] at h
    split at h
    case h_1 hkind => rw [scopeKind?, hkind]
    case h_2 => cases h

theorem scopeKind?_of_isFunction {n : Node} (h : n.isFunction = true) :
    n.scopeKind? = some .function := by
  cases n with
  | expr e => cases h
  | stmt s =>
    rw [isFunction] at h
    split at h
    case h_1 hkind => rw [scopeKind?, hkind]
    case h_2 => cases h

end Node

theorem scopesAmong_cons_scope {n : Node} (h : n.scopeKind?.isSome = true) (rest : List Node) :
    scopesAmong (n :: rest) = ⟨n, rest⟩ :: scopesAmong rest := by
  cases rest with
  | nil => simp [scopesAmong, h]
  | cons m rest => cases rest <;> simp [scopesAmong, h]

theorem scopesAmong_cons_stmt {s : Stmt} (h : (Node.stmt s).scopeKind? = none) (rest : List Node) :
    scopesAmong (.stmt s :: rest) = scopesAmong rest := by
  cases rest with
  | nil => simp [scopesAmong, h]
  | cons m rest =>
    cases rest <;>
      simp [scopesAmong, h, Node.isDecorators, Node.isWalrus, Node.exprKind?]

/-- Among statements the innermost scope is the nearest one that opens a scope. -/
theorem head?_scopesAmong_of_stmts {nodes : List Node} (h : ∀ n ∈ nodes, n.IsStmt) {p : Place} :
    (scopesAmong nodes).head? = some p ↔
      ∃ blocks, nodes = blocks ++ p.node :: p.above ∧ p.node.scopeKind?.isSome = true ∧
        ∀ n ∈ blocks, n.scopeKind? = none := by
  induction nodes with
  | nil => simp [scopesAmong]
  | cons n rest ih =>
    obtain ⟨⟨s, rfl⟩, hrest⟩ := List.forall_mem_cons.mp h
    cases hkind : (Node.stmt s).scopeKind? with
    | some kind =>
      rw [scopesAmong_cons_scope (by rw [hkind]; rfl), List.head?_cons, Option.some.injEq]
      constructor
      · rintro rfl
        exact ⟨[], rfl, by rw [hkind]; rfl, by simp⟩
      · rintro ⟨blocks, hsplit, -, hblocks⟩
        cases blocks with
        | nil =>
          obtain ⟨hnode, habove⟩ := List.cons.inj hsplit
          rw [hnode, habove]
        | cons b blocks =>
          obtain ⟨rfl, -⟩ := List.cons.inj hsplit
          cases hkind.symm.trans (hblocks _ List.mem_cons_self)
    | none =>
      rw [scopesAmong_cons_stmt hkind, ih hrest]
      constructor
      · rintro ⟨blocks, rfl, hopens, hblocks⟩
        exact ⟨.stmt s :: blocks, rfl, hopens, List.forall_mem_cons.mpr ⟨hkind, hblocks⟩⟩
      · rintro ⟨blocks, hsplit, hopens, hblocks⟩
        cases blocks with
        | nil =>
          obtain ⟨hnode, -⟩ := List.cons.inj hsplit
          rw [← hnode, hkind] at hopens
          cases hopens
        | cons b blocks =>
          obtain ⟨rfl, hrest'⟩ := List.cons.inj hsplit
          exact ⟨blocks, hrest', hopens, (List.forall_mem_cons.mp hblocks).2⟩

end SourceConventions.Syntax
