import SourceConventions.Facts.OfTree
import SourceConventions.Proofs.Syntax.Spots
import SourceConventions.Proofs.Syntax.StatementCount
import SourceConventions.Proofs.Traversal

/-!
# Variables in their scopes

A fact about a variable has the name of its scope, and different scopes may have one name: those of
a function that is defined twice, or of a class and a function beside it. The variables of a tree
have the spot of their scope as well, which is that of one node only.
-/

namespace SourceConventions

open Syntax

namespace Syntax

/-- The name of the scope that a node at a place opens. -/
def Place.dottedName (p : Place) : String := scopeName (p :: p.scopes)

end Syntax

/-- What a fact about a variable says of the name that is bound at a place in a scope. -/
structure VariableFact.BoundIn (v : VariableFact) (p scope : Place) : Prop where
  name : ∃ e, p.node = .expr e ∧ e.kind = .binding v.name ∧ e.pos = v.pos
  binding : ∃ binder, VariableFact.binding? p.above = some (v.binding, binder)
  opens : scope.node.scopeKind? = some v.scope
  scopeName : v.scopeName = scope.dottedName
  statements : v.scopeStatements = VariableFact.statementsIn scope.node

/-- The fact about a place is about what is bound there in the innermost scope. -/
theorem VariableFact.boundIn_and_isPublic_of_ofPlace? {p : Place} {v : VariableFact}
    (h : ofPlace? p = some (.ok v)) :
    ∃ scope, p.scopes.head? = some scope ∧ v.BoundIn p scope ∧
      v.isPublic = ((v.scope = .module || v.scope = .classBody) && !Name.isPrivate v.name
        && !FunctionFact.inPrivateClass p.above) := by
  rw [ofPlace?] at h
  cases hnode : p.node with
  | stmt s => rw [hnode] at h; cases h
  | expr e =>
    rw [hnode] at h
    dsimp only at h
    split at h
    case h_2 => cases h
    case h_1 name hkind =>
      rw [ofBinding?] at h
      split at h
      case h_2 => cases h
      case h_1 binding binder scope outer hbinding hscopes =>
        obtain rfl := eq_scopes_of_scopesAmong_eq_cons hscopes
        have hopens := isSome_scopeKind?_of_mem_scopesAmong (hscopes ▸ List.mem_cons_self)
        obtain ⟨kind, hscopeKind⟩ := Option.isSome_iff_exists.mp hopens
        cases hhint : FunctionFact.hintText (hint? binder) with
        | error fault => rw [hhint] at h; cases h
        | ok declared =>
          rw [hhint, hscopeKind] at h
          obtain rfl := Except.ok.inj (Option.some.inj h)
          exact ⟨scope, by rw [Place.scopes, hscopes]; rfl,
            ⟨⟨e, hnode, hkind, rfl⟩, ⟨binder, hbinding⟩, hscopeKind, rfl, rfl⟩, rfl⟩

theorem VariableFact.boundIn_of_ofPlace? {p : Place} {v : VariableFact}
    (h : ofPlace? p = some (.ok v)) : ∃ scope, p.scopes.head? = some scope ∧ v.BoundIn p scope := by
  obtain ⟨scope, hscope, hbound, -⟩ := boundIn_and_isPublic_of_ofPlace? h
  exact ⟨scope, hscope, hbound⟩

/-- A variable with the spot at which it is bound and the spot of its scope. -/
structure ScopedVariable where
  spot : Spot
  scope : Spot
  fact : VariableFact
  deriving Repr

namespace ScopedVariable

def ofSpot? (t : Spot) : Option ScopedVariable :=
  match t.scope?, VariableFact.ofPlace? t.place with
  | some scope, some (.ok fact) => some ⟨t, scope, fact⟩
  | _, _ => none

/-- Whether two variables are one: their scope is one node, and they have one name. -/
def isSame (a b : ScopedVariable) : Bool :=
  a.scope.way = b.scope.way && a.fact.name = b.fact.name

/-- The name of the scope of a variable, and its own. -/
def names (b : ScopedVariable) : String × String := (b.scope.place.dottedName, b.fact.name)

end ScopedVariable

/-- The variables of a tree in pre-order. -/
def Syntax.Stmt.variables (tree : Stmt) : List ScopedVariable :=
  (tree.spots [] []).filterMap ScopedVariable.ofSpot?

/-! ### What is known of a variable of a tree -/

theorem ScopedVariable.ofSpot?_eq_some_iff {t : Spot} {b : ScopedVariable} :
    ofSpot? t = some b ↔
      b.spot = t ∧ t.scope? = some b.scope ∧ VariableFact.ofPlace? t.place = some (.ok b.fact) := by
  rw [ofSpot?]
  constructor
  · intro h
    split at h
    case h_1 scope fact hscope hfact =>
      obtain rfl := Option.some.inj h
      exact ⟨rfl, hscope, hfact⟩
    case h_2 => cases h
  · rintro ⟨rfl, hscope, hfact⟩
    rw [hscope, hfact]

/-- The spots of a variable are those of the tree, and its fact is about them. -/
theorem Syntax.Stmt.of_mem_variables {tree : Stmt} {b : ScopedVariable} (h : b ∈ tree.variables) :
    b.spot ∈ tree.spots [] [] ∧ b.scope ∈ tree.spots [] [] ∧ b.spot.scope? = some b.scope ∧
      b.fact.BoundIn b.spot.place b.scope.place := by
  obtain ⟨t, ht, hb⟩ := List.mem_filterMap.mp h
  obtain ⟨rfl, hscope, hfact⟩ := ScopedVariable.ofSpot?_eq_some_iff.mp hb
  refine ⟨ht, tree.scope?_mem_spots ht hscope, hscope, ?_⟩
  obtain ⟨p, hp, hbound⟩ := VariableFact.boundIn_of_ofPlace? hfact
  rw [Spot.scope?, hp] at hscope
  rwa [← Option.some.inj hscope]

namespace ScopedVariable

variable {tree : Stmt} {a b : ScopedVariable}

/-- The scope of a variable is the innermost one at the place where it is bound. -/
theorem head?_scopes (h : b ∈ tree.variables) :
    b.spot.place.scopes.head? = some b.scope.place := by
  obtain ⟨p, hp, hspot⟩ := Option.map_eq_some_iff.mp (Stmt.of_mem_variables h).2.2.1
  rw [hp, ← hspot]
  rfl

/-- A variable of a module or a class is public if neither its own name is private nor that of a
class around it. -/
theorem isPublic_eq (h : b ∈ tree.variables) :
    b.fact.isPublic = ((b.fact.scope = .module || b.fact.scope = .classBody)
      && !Name.isPrivate b.fact.name && !FunctionFact.inPrivateClass b.spot.place.above) := by
  obtain ⟨t, -, hb⟩ := List.mem_filterMap.mp h
  obtain ⟨rfl, -, hfact⟩ := ofSpot?_eq_some_iff.mp hb
  obtain ⟨-, -, -, hpublic⟩ := VariableFact.boundIn_and_isPublic_of_ofPlace? hfact
  exact hpublic

/-- The size of a module, class or function is the number of the statements in it that stand in no
function, class or lambda of its own. -/
theorem scopeStatements_eq (h : b ∈ tree.variables) {s : Stmt}
    (hscope : b.scope.place.node = .stmt s) :
    b.fact.scopeStatements = (Stmt.placesOfAll [] s.body).countP Place.isCounted := by
  rw [(Stmt.of_mem_variables h).2.2.2.statements, hscope]
  exact s.count_eq_countP_places

@[simp] theorem isSame_self (b : ScopedVariable) : b.isSame b = true := by simp [isSame]

theorem isSame_iff (ha : a ∈ tree.variables) (hb : b ∈ tree.variables) :
    a.isSame b = true ↔ a.scope = b.scope ∧ a.fact.name = b.fact.name := by
  rw [isSame, Bool.and_eq_true, decide_eq_true_iff, decide_eq_true_iff]
  refine and_congr_left fun _ => ⟨fun hway => ?_, congrArg Spot.way⟩
  exact Stmt.spot_eq_of_way_eq (Stmt.of_mem_variables ha).2.1 (Stmt.of_mem_variables hb).2.1 hway

/-- One variable has the same names wherever it is bound. -/
theorem names_eq_of_isSame (ha : a ∈ tree.variables) (hb : b ∈ tree.variables)
    (h : a.isSame b = true) : a.names = b.names := by
  obtain ⟨hscope, hname⟩ := (isSame_iff ha hb).mp h
  rw [names, names, hscope, hname]

end ScopedVariable

/-- The facts about what is bound at some spots, if there are such. -/
theorem ScopedVariable.facts_ofSpots {spots : List Spot} {facts : List VariableFact}
    (h : ((spots.map Spot.place).filterMap VariableFact.ofPlace?).mapM (fun v => v) = .ok facts) :
    facts = (spots.filterMap ofSpot?).map fact := by
  induction spots generalizing facts with
  | nil => exact (Except.ok.inj h).symm
  | cons t rest ih =>
    rw [List.map_cons] at h
    cases hfact : VariableFact.ofPlace? t.place with
    | none =>
      have hskip : ofSpot? t = none := Option.eq_none_iff_forall_ne_some.mpr fun b hb => by
        cases hfact.symm.trans (ofSpot?_eq_some_iff.mp hb).2.2
      rw [List.filterMap_cons_none hfact] at h
      rw [List.filterMap_cons_none hskip]
      exact ih h
    | some answer =>
      rw [List.filterMap_cons_some hfact] at h
      obtain ⟨v, vs, rfl, hvs, rfl⟩ := Traversal.mapM_cons_eq_ok_iff.mp h
      obtain ⟨p, hp, -⟩ := VariableFact.boundIn_of_ofPlace? hfact
      have hspot : ofSpot? t = some ⟨t, t.upTo p, v⟩ :=
        ofSpot?_eq_some_iff.mpr ⟨rfl, by rw [Spot.scope?, hp, Option.map_some], hfact⟩
      rw [List.filterMap_cons_some hspot, List.map_cons, ih hvs]

/-- The facts about the variables of a tree, if it has facts. -/
theorem Facts.bindings_of_ofTree {verbs : List String} {suppressions : Suppressions} {tree : Stmt}
    {facts : Facts} (h : Facts.ofTree verbs suppressions tree = .ok facts) :
    facts.bindings = tree.variables.map ScopedVariable.fact := by
  have hbindings := (Facts.of_ofTree h).2.1
  rw [← tree.map_place_spots []] at hbindings
  exact ScopedVariable.facts_ofSpots hbindings

end SourceConventions
