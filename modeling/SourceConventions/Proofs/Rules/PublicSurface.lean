import SourceConventions.Proofs.Rules.Scopes
import SourceConventions.Proofs.Rules.Signatures

/-!
# What is told if public names only are checked

Functions in functions are not told, and neither is what stands in a class with a private name. The
variables of a class are told even if the class stands in a function.
-/

namespace SourceConventions

open Syntax

/-- What is bound by a plain assignment stands directly in a statement. -/
theorem VariableFact.eq_cons_of_binding?_eq_assign {above : List Node} {binder : Node}
    (h : binding? above = some (.assign, binder)) : ∃ s outer, above = .stmt s :: outer := by
  cases above with
  | nil => cases h
  | cons n outer =>
    cases hunpacking : isUnpacking n with
    | true =>
      -- an assignment to what stands in a container is an unpacking
      rw [binding?, List.head?_cons, Option.any_some, hunpacking] at h
      split at h
      case h_1 => cases h
      case h_2 => grind
    | false =>
      rw [binding?, List.find?_cons_of_pos (by simp [hunpacking])] at h
      cases n with
      | stmt s => exact ⟨s, outer, rfl⟩
      | expr e => grind

namespace ScopedVariable

variable {tree : Stmt} {b : ScopedVariable}

theorem isStmt_above_of_assign (h : b ∈ tree.variables) (hassign : b.fact.binding = .assign) :
    ∀ n ∈ b.spot.place.above, n.IsStmt := by
  obtain ⟨hspot, -, -, hbound⟩ := Stmt.of_mem_variables h
  obtain ⟨binder, hbinding⟩ := hbound.binding
  rw [hassign] at hbinding
  obtain ⟨s, outer, habove⟩ := VariableFact.eq_cons_of_binding?_eq_assign hbinding
  have hplace : ⟨b.spot.place.node, .stmt s :: outer⟩ ∈ tree.places [] := by
    rw [← habove, ← tree.map_place_spots []]
    exact List.mem_map_of_mem hspot
  rw [habove]
  exact List.forall_mem_cons.mpr ⟨⟨s, rfl⟩, Stmt.isStmt_above (Stmt.parent_mem_places hplace)⟩

/-- A function around what a module or a class assigns stands around that module or class. -/
theorem mem_above_scope_of_isFunction (h : b ∈ tree.variables) (hassign : b.fact.binding = .assign)
    (hscope : b.scope.place.node.scopeKind? ≠ some .function) {n : Node}
    (hn : n ∈ b.spot.place.above) (hfunction : n.isFunction = true) :
    n ∈ b.scope.place.above := by
  obtain ⟨blocks, hsplit, -, hblocks⟩ := (head?_scopesAmong_of_stmts
    (isStmt_above_of_assign h hassign)).mp (head?_scopes h)
  rw [hsplit] at hn
  rcases List.mem_append.mp hn with hn | hn
  · cases (hblocks n hn).symm.trans (Node.scopeKind?_of_isFunction hfunction)
  · rcases List.mem_cons.mp hn with rfl | hn
    · exact absurd (Node.scopeKind?_of_isFunction hfunction) hscope
    · exact hn

end ScopedVariable

namespace Rules

variable {verbs : List String} {suppressions : Suppressions} {tree : Stmt} {facts : Facts}

/-- If public names only are checked, each public function with a gap is told and no other one. A
variable that is told belongs to a module or a class, neither its name nor that of a class around it
is private, and a function around it stands around its class. -/
theorem missingHint_of_public (hfacts : Facts.ofTree verbs suppressions tree = .ok facts)
    (path : String) :
    ∃ bs : List ScopedVariable,
      missingHint true path facts =
        (tree.definitions.filter fun d => d.IsPublic ∧ d.gaps ≠ []).map (gapFinding path)
          ++ bs.map (hintFinding path) ∧
      bs.Sublist tree.variables ∧
      ∀ b ∈ bs,
        (b.scope.place.node.scopeKind? = some .module ∨
          b.scope.place.node.scopeKind? = some .classBody) ∧
        Name.isPrivate b.fact.name = false ∧
        ∀ n ∈ b.spot.place.above, ¬ n.IsPrivateClass ∧
          (n.isFunction = true → n ∈ b.scope.place.above) := by
  refine ⟨told (lacksHint true tree) tree.variables, ?_, told_sublist, fun b hb => ?_⟩
  · rw [missingHint_eq hfacts, functionHints_of_describes (Facts.functions_of_ofTree hfacts)]
    simp only [HasToldGaps, true_imp_iff]
  · have hmem := told_sublist.subset hb
    have hlacks := objects_of_mem_told hb
    simp only [lacksHint, asksForHint, Bool.and_eq_true, Bool.or_eq_true, decide_eq_true_eq,
      Bool.not_true, Bool.false_or] at hlacks
    obtain ⟨⟨⟨⟨hscope, hassign⟩, -⟩, hpublic⟩, -⟩ := hlacks
    rw [ScopedVariable.isPublic_eq hmem] at hpublic
    simp only [Bool.and_eq_true, Bool.not_eq_true', FunctionFact.inPrivateClass_eq_false_iff]
      at hpublic
    have hnone : b.scope.place.node.scopeKind? ≠ some .function := by
      rcases hscope with h | h <;> rw [h] <;> decide
    exact ⟨hscope, hpublic.1.2, fun n hn => ⟨hpublic.2 n hn,
      ScopedVariable.mem_above_scope_of_isFunction hmem hassign hnone hn⟩⟩

/-- A class in a function. -/
def localClass : String := "def f()->None:\n class A:\n  x=1\n"

/-- The variable of the class is told, though the class is not seen outside of the function. -/
theorem missingHint_in_localClass :
    ∃ tree facts b, programOf [] localClass = .ok tree ∧ Facts.ofTree [] [] tree = .ok facts ∧
      tree.variables = [b] ∧ (∃ n ∈ b.scope.place.above, n.isFunction = true) ∧
      missingHint true "a.py" facts = [hintFinding "a.py" b] := by
  obtain ⟨tree, facts, htree, hfacts, hseen⟩ := Facts.exists_of_text localClass
    (fun tree facts => tree.variables.length = 1
      && tree.variables.head?.any (fun b : ScopedVariable =>
        b.scope.place.above.any Node.isFunction)
      && (tree.definitions.filter fun d => d.IsPublic ∧ d.gaps ≠ []).isEmpty
      && !(missingHint true "a.py" facts).isEmpty)
    (by decide +kernel)
  simp only [Bool.and_eq_true, decide_eq_true_eq, List.isEmpty_iff, Bool.not_eq_true'] at hseen
  obtain ⟨⟨⟨hone, hfunction⟩, hdefinitions⟩, htold⟩ := hseen
  obtain ⟨b, hvariables⟩ := List.length_eq_one_iff.mp hone
  rw [hvariables, List.head?_cons, Option.any_some, List.any_eq_true] at hfunction
  obtain ⟨bs, hhints, hsublist, -⟩ := missingHint_of_public hfacts "a.py"
  rw [hdefinitions, List.map_nil, List.nil_append] at hhints
  rw [hvariables] at hsublist
  have hbs : bs = [b] := by
    rcases List.sublist_singleton.mp hsublist with rfl | rfl
    · rw [hhints] at htold; cases htold
    · rfl
  exact ⟨tree, facts, b, htree, hfacts, hvariables, hfunction, by rw [hhints, hbs]; rfl⟩

end Rules

end SourceConventions
