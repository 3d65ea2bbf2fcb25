import SourceConventions.Facts.OfTree
import SourceConventions.Proofs.Traversal

/-!
# Facts of a tree under verbs

Verbs are needed for one part of the facts about functions and for nothing else: the facts that a
tree has under some verbs are those that it has under others, with that part told anew. Under all
verbs a tree has facts unless an annotation that they quote cannot be written, which is so if an
integer in it has too many digits.
-/

namespace SourceConventions

open Syntax

namespace FunctionFact

/-- The fact as other verbs tell it. -/
def judgedBy (verbs : List String) (f : FunctionFact) : FunctionFact :=
  { f with startsWithVerb := startsWithVerb? verbs f.isProperty f.name }

theorem ofStatement_eq_map (verbs : List String) (s : Stmt) (name : String) (above : List Node) :
    ofStatement verbs s name above = (ofStatement [] s name above).map (judgedBy verbs) := by
  rw [ofStatement, ofStatement]
  cases hintText (s.part? .returns) <;> rfl

theorem ofPlace?_eq_map (verbs : List String) (p : Place) :
    ofPlace? verbs p = (ofPlace? [] p).map (Except.map (judgedBy verbs)) := by
  obtain ⟨node, above⟩ := p
  cases node with
  | expr e => rfl
  | stmt s =>
    rw [ofPlace?, ofPlace?]
    dsimp only
    cases s.kind with
    | functionDef name a => exact congrArg some (ofStatement_eq_map verbs s name above)
    | _ => rfl

/-- More verbs reject fewer names, unless there have been none. -/
theorem startsWithVerb?_of_subset {verbs verbs' : List String} (hsub : verbs ⊆ verbs')
    (hnil : verbs = [] → verbs' = []) {isProperty : Bool} {name : String}
    (h : startsWithVerb? verbs' isProperty name = some false) :
    startsWithVerb? verbs isProperty name = some false := by
  have hempty : verbs.isEmpty = verbs'.isEmpty := by
    rw [Bool.eq_iff_iff, List.isEmpty_iff, List.isEmpty_iff]
    exact ⟨hnil, fun h => List.subset_nil.mp (h ▸ hsub)⟩
  rw [startsWithVerb?] at h ⊢
  rw [hempty]
  split at h
  case isTrue => cases h
  case isFalse hjudged =>
    rw [if_neg hjudged]
    have hnone := List.any_eq_false.mp (Option.some.inj h)
    exact congrArg some (List.any_eq_false.mpr fun v hv => hnone v (hsub hv))

end FunctionFact

namespace Facts

def judgedBy (verbs : List String) (facts : Facts) : Facts :=
  { facts with functions := facts.functions.map (FunctionFact.judgedBy verbs) }

@[simp] theorem judgedBy_judgedBy (verbs verbs' : List String) (facts : Facts) :
    (facts.judgedBy verbs).judgedBy verbs' = facts.judgedBy verbs' := by
  rw [judgedBy, judgedBy, judgedBy, List.map_map]
  rfl

theorem ofTree_eq_map (verbs : List String) (suppressions : Suppressions) (tree : Stmt) :
    ofTree verbs suppressions tree = (ofTree [] suppressions tree).map (judgedBy verbs) := by
  have hfunctions : (((tree.places []).filterMap (FunctionFact.ofPlace? verbs)).mapM fun f => f) =
      (((tree.places []).filterMap (FunctionFact.ofPlace? [])).mapM fun f => f).map
        (List.map (FunctionFact.judgedBy verbs)) := by
    rw [List.filterMap_congr fun p _ => FunctionFact.ofPlace?_eq_map verbs p, ← List.map_filterMap,
      List.mapM_map]
    exact Traversal.mapM_map_answers (FunctionFact.judgedBy verbs) (fun f => f) _
  rw [ofTree, ofTree, hfunctions]
  cases ((tree.places []).filterMap (FunctionFact.ofPlace? [])).mapM fun f => f with
  | error e => rfl
  | ok functions =>
    cases ((tree.places []).filterMap VariableFact.ofPlace?).mapM fun v => v <;> rfl

/-- Under other verbs a tree has facts just if it has any, and its facts are told anew. -/
theorem ofTree_of_ofTree {verbs : List String} {suppressions : Suppressions} {tree : Stmt}
    {facts : Facts} (h : ofTree verbs suppressions tree = .ok facts) (verbs' : List String) :
    ofTree verbs' suppressions tree = .ok (facts.judgedBy verbs') := by
  rw [ofTree_eq_map] at h ⊢
  cases hnone : ofTree [] suppressions tree with
  | error e => rw [hnone] at h; cases h
  | ok facts' =>
    rw [hnone] at h
    cases h
    exact congrArg Except.ok (judgedBy_judgedBy verbs verbs' facts').symm

theorem ofTree_error_congr {verbs : List String} {suppressions : Suppressions} {tree : Stmt}
    {e : AnalysisFault} (h : ofTree verbs suppressions tree = .error e) (verbs' : List String) :
    ofTree verbs' suppressions tree = .error e := by
  rw [ofTree_eq_map] at h ⊢
  cases hnone : ofTree [] suppressions tree with
  | error e' => rw [hnone] at h; cases h; rfl
  | ok facts' => rw [hnone] at h; cases h

end Facts

/-! ### Annotations that cannot be written -/

namespace Syntax.Expr

/-- An integer that has too many digits to be written stands in an expression. What is below a
constant does not count. -/
inductive HoldsLongInteger : Expr → Prop where
  | integer {role : Role} {n : Int} {pos : Position} {children : List Expr}
      (hdigits : Numeral.maxDigits < (Nat.toDigits 10 n.natAbs).length) :
      HoldsLongInteger (mk role (.constant (.number (.integer n))) pos children)
  | child {role : Role} {kind : ExprKind} {pos : Position} {children : List Expr} {e : Expr}
      (hkind : ∀ c, kind ≠ .constant c) (he : e ∈ children) (h : HoldsLongInteger e) :
      HoldsLongInteger (mk role kind pos children)

theorem holdsLongInteger_constant_iff {role : Role} {c : Constant} {pos : Position}
    {children : List Expr} :
    HoldsLongInteger (mk role (.constant c) pos children) ↔ c.written? = none := by
  constructor
  · intro h
    cases h with
    | integer hdigits => exact if_pos hdigits
    | child hkind => exact absurd rfl (hkind c)
  · intro h
    match c, h with
    | .number (.integer n), h =>
      rw [Constant.written?, Numeral.text?, Numeral.integerText?, ite_eq_left_iff] at h
      exact .integer (Decidable.byContradiction fun hdigits => nomatch h hdigits)
    | .bool true, h | .bool false, h => cases h

theorem holdsLongInteger_iff_of_ne_constant {role : Role} {kind : ExprKind} {pos : Position}
    {children : List Expr} (hkind : ∀ c, kind ≠ .constant c) :
    HoldsLongInteger (mk role kind pos children) ↔ ∃ e ∈ children, e.HoldsLongInteger := by
  constructor
  · intro h
    cases h with
    | integer => exact absurd rfl (hkind _)
    | child _ he h => exact ⟨_, he, h⟩
  · rintro ⟨e, he, h⟩
    exact .child hkind he h

mutual

/-- An expression can be written unless such an integer stands in it. -/
theorem written?_eq_none_iff (parent : Option ExprKind) :
    (e : Expr) → (e.written? parent = none ↔ e.HoldsLongInteger)
  | mk role kind pos children => by
    by_cases hkind : ∃ c, kind = .constant c
    · obtain ⟨c, rfl⟩ := hkind
      rw [written?, holdsLongInteger_constant_iff]
    · rw [not_exists] at hkind
      rw [written?.eq_2 parent role kind pos children hkind, Option.map_eq_none_iff,
        holdsLongInteger_iff_of_ne_constant hkind]
      exact writtenAll?_eq_none_iff kind children

theorem writtenAll?_eq_none_iff (parent : ExprKind) :
    (l : List Expr) → (writtenAll? parent l = none ↔ ∃ e ∈ l, e.HoldsLongInteger)
  | [] => by simp [writtenAll?]
  | e :: rest => by
    rw [writtenAll?, List.exists_mem_cons_iff, ← written?_eq_none_iff (some parent) e,
      ← writtenAll?_eq_none_iff parent rest]
    cases e.written? (some parent) with
    | none => simp
    | some text => cases writtenAll? parent rest <;> simp

end

end Syntax.Expr

/-! ### Trees that have facts -/

namespace FunctionFact

theorem exists_hintText_iff {e : Option Expr} :
    (∃ hint, hintText e = .ok hint) ↔ ∀ hint ∈ e, ¬ hint.HoldsLongInteger := by
  cases e with
  | none => exact ⟨fun _ => nofun, fun _ => ⟨none, rfl⟩⟩
  | some e =>
    simp only [Option.mem_some_iff, forall_eq']
    rw [← Expr.written?_eq_none_iff none, hintText]
    cases e.written? none <;> simp

theorem exists_ofStatement_iff {verbs : List String} {s : Stmt} {name : String}
    {above : List Node} :
    (∃ f, ofStatement verbs s name above = .ok f) ↔
      ∀ hint ∈ s.part? .returns, ¬ hint.HoldsLongInteger := by
  rw [← exists_hintText_iff, ofStatement]
  cases hintText (s.part? .returns) <;> simp [bind, Except.bind, pure, Except.pure]

end FunctionFact

/-- The annotation that is quoted by the fact about a place: that of what a function returns or of
the variable that is bound there. -/
def Syntax.Place.hint? (p : Place) : Option Expr :=
  match p.node with
  | .stmt s => match s.kind with
    | .functionDef _ _ => s.part? .returns
    | _ => none
  | .expr e => match e.kind with
    | .binding _ =>
      if p.scopes.isEmpty then none
      else (VariableFact.binding? p.above).bind fun bound => VariableFact.hint? bound.2
    | _ => none

theorem VariableFact.exists_ofBinding?_iff {name : String} {pos : Position} {above : List Node} :
    (∀ answer ∈ ofBinding? name pos above, ∃ v, answer = .ok v) ↔
      ∀ hint ∈ (if (scopesAmong above).isEmpty then none
        else (binding? above).bind fun bound => hint? bound.2), ¬ hint.HoldsLongInteger := by
  rw [ofBinding?]
  cases hscopes : scopesAmong above with
  | nil => cases binding? above <;> simp
  | cons scope outer =>
    cases hbinding : binding? above with
    | none => simp
    | some bound =>
      rw [List.isEmpty_cons, if_neg Bool.false_ne_true, Option.bind_some,
        ← FunctionFact.exists_hintText_iff]
      simp only [Option.mem_some_iff, forall_eq']
      cases FunctionFact.hintText (hint? bound.2) <;> simp [bind, Except.bind, pure, Except.pure]

/-- A place gives facts unless an integer that is too long stands in the annotation quoted there. -/
theorem Syntax.Place.exists_facts_iff (verbs : List String) (p : Place) :
    ((∀ answer ∈ FunctionFact.ofPlace? verbs p, ∃ f, answer = .ok f) ∧
        ∀ answer ∈ VariableFact.ofPlace? p, ∃ v, answer = .ok v) ↔
      ∀ hint ∈ p.hint?, ¬ hint.HoldsLongInteger := by
  rw [FunctionFact.ofPlace?, VariableFact.ofPlace?, hint?]
  cases p.node with
  | stmt s =>
    dsimp only
    cases s.kind with
    | functionDef name isAsync => simp [FunctionFact.exists_ofStatement_iff]
    | _ => simp
  | expr e =>
    dsimp only
    cases e.kind with
    | binding name =>
      rw [and_iff_right nofun]
      exact VariableFact.exists_ofBinding?_iff
    | _ => simp

namespace Facts

/-- A tree has facts unless an integer with too many digits to be written stands in the annotation
of a variable or of what a function returns. -/
theorem exists_ofTree_iff (verbs : List String) (suppressions : Suppressions) (tree : Stmt) :
    (∃ facts, ofTree verbs suppressions tree = .ok facts) ↔
      ∀ p ∈ tree.places [], ∀ hint ∈ p.hint?, ¬ hint.HoldsLongInteger := by
  have hplaces : (∀ p ∈ tree.places [], ∀ hint ∈ p.hint?, ¬ hint.HoldsLongInteger) ↔
      (∃ fs, ((tree.places []).filterMap (FunctionFact.ofPlace? verbs)).mapM (fun f => f) =
          .ok fs) ∧
        ∃ vs, ((tree.places []).filterMap VariableFact.ofPlace?).mapM (fun v => v) = .ok vs := by
    rw [Traversal.exists_filterMap_mapM_iff, Traversal.exists_filterMap_mapM_iff, ← forall₂_and]
    exact forall₂_congr fun p _ => (p.exists_facts_iff verbs).symm
  rw [hplaces]
  constructor
  · rintro ⟨facts, h⟩
    obtain ⟨hfunctions, hbindings, -⟩ := of_ofTree h
    exact ⟨⟨_, hfunctions⟩, ⟨_, hbindings⟩⟩
  · rintro ⟨⟨fs, hfunctions⟩, ⟨vs, hbindings⟩⟩
    rw [ofTree]
    simp only [hfunctions, hbindings]
    exact ⟨_, rfl⟩

end Facts

end SourceConventions
