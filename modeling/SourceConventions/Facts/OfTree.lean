import SourceConventions.Facts.Literal
import SourceConventions.Facts.Variable

/-!
# Facts of a tree
-/

namespace SourceConventions.Facts

open Syntax

/-- The facts of a tree in pre-order, with the suppressions that its text has. -/
def ofTree (verbs : List String) (suppressions : Suppressions) (tree : Stmt) :
    Except AnalysisFault Facts := do
  let places := tree.places []
  return {
    functions := ← (places.filterMap (FunctionFact.ofPlace? verbs)).mapM fun f => f
    bindings := ← (places.filterMap VariableFact.ofPlace?).mapM fun v => v
    literals := places.filterMap LiteralFact.ofPlace?
    suppressions }

/-- The facts of each kind come from the places of the tree. -/
theorem of_ofTree {verbs : List String} {suppressions : Suppressions} {tree : Stmt} {facts : Facts}
    (h : ofTree verbs suppressions tree = .ok facts) :
    ((tree.places []).filterMap (FunctionFact.ofPlace? verbs)).mapM (fun f => f) =
        .ok facts.functions ∧
      ((tree.places []).filterMap VariableFact.ofPlace?).mapM (fun v => v) = .ok facts.bindings ∧
      (tree.places []).filterMap LiteralFact.ofPlace? = facts.literals := by
  rw [ofTree] at h
  dsimp only [bind, Except.bind] at h
  split at h
  case h_1 => cases h
  case h_2 functions hfunctions =>
    split at h
    case h_1 => cases h
    case h_2 bindings hbindings =>
      obtain rfl := Except.ok.inj h
      exact ⟨hfunctions, hbindings, rfl⟩

end SourceConventions.Facts
