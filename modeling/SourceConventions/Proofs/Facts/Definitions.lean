import Mathlib.Data.List.TakeWhile
import SourceConventions.Facts.OfTree
import SourceConventions.Proofs.Syntax.Enclosing
import SourceConventions.Proofs.Traversal
import SourceConventions.Syntax.Program

/-!
# Functions that a tree defines

A tree has one fact for each function that it defines. The fact calls the function a method if the
definition stands in the body of a class itself; if it stands in a block of that body, the class is
the scope around it all the same, but the function is no method.
-/

namespace SourceConventions

open Syntax

/-- A class whose name is private. -/
def Syntax.Node.IsPrivateClass (n : Node) : Prop :=
  n.isClass = true ∧ ∃ name, n.definedName? = some name ∧ Name.isPrivate name = true

theorem FunctionFact.inPrivateClass_eq_false_iff {nodes : List Node} :
    inPrivateClass nodes = false ↔ ∀ n ∈ nodes, ¬ n.IsPrivateClass := by
  rw [inPrivateClass, List.any_eq_false]
  simp only [Bool.and_eq_true, Option.any_eq_true, Node.IsPrivateClass]

/-- A definition of a function, with the nodes above it. -/
structure Definition where
  name : String
  stmt : Stmt
  above : List Node
  deriving Repr

/-- A parameter as a signature names it. -/
structure NamedParameter where
  name : String
  annotated : Bool
  pos : Position
  deriving DecidableEq, Repr

namespace NamedParameter

def ofParameter (p : Parameter) : NamedParameter := ⟨p.name, p.annotated, p.pos⟩

/-- A parameter for the rest of the arguments stands at the start of the line of its function. -/
def ofRest (line : Nat) (p : RestParameter) : NamedParameter := ⟨p.name, p.annotated, ⟨line, 0⟩⟩

/-- The fact about a parameter that is no receiver. -/
def fact (p : NamedParameter) : ParameterFact := ⟨p.name, p.annotated, false, p.pos⟩

/-- The facts about the parameters of a signature, of which the first one may be the receiver. -/
def facts (hasReceiver : Bool) : List NamedParameter → List ParameterFact
  | [] => []
  | p :: rest => { p.fact with isReceiver := hasReceiver } :: rest.map fact

@[simp] theorem facts_false (ps : List NamedParameter) : facts false ps = ps.map fact := by
  cases ps <;> rfl

theorem facts_append {hasReceiver : Bool} {ps : List NamedParameter} (h : ps ≠ [])
    (qs : List NamedParameter) :
    facts hasReceiver (ps ++ qs) = facts hasReceiver ps ++ qs.map fact := by
  cases ps with
  | nil => exact absurd rfl h
  | cons p rest => rw [List.cons_append, facts, facts, List.map_append, List.cons_append]

/-- What is looked for beside the receiver is looked for among the other parameters. -/
theorem filter_facts (hasReceiver : Bool) (ps : List NamedParameter) {sought : ParameterFact → Bool}
    (hreceiver : ∀ p, p.isReceiver = true → sought p = false) :
    (facts hasReceiver ps).filter sought =
      ((if hasReceiver then ps.tail else ps).filter fun p => sought p.fact).map fact := by
  have hplain (qs : List NamedParameter) : (qs.map fact).filter sought =
      (qs.filter fun p => sought p.fact).map fact := List.filter_map
  cases hasReceiver with
  | false => rw [facts_false, hplain, if_neg Bool.false_ne_true]
  | true =>
    rw [if_pos rfl]
    cases ps with
    | nil => rfl
    | cons p rest =>
      rw [facts, List.filter_cons_of_neg (by simp [hreceiver]), hplain, List.tail_cons]

end NamedParameter

namespace Definition

def ofPlace? (p : Place) : Option Definition :=
  match p.node with
  | .stmt s => match s.kind with
    | .functionDef name _ => some ⟨name, s, p.above⟩
    | _ => none
  | .expr _ => none

/-- The scope around a definition. -/
def scope? (d : Definition) : Option Place := (Place.mk (.stmt d.stmt) d.above).scopes.head?

/-- The body of a class is the scope around a definition. -/
def InClass (d : Definition) : Prop := ∃ c, d.scope? = some c ∧ c.node.isClass = true

/-- What lies between a definition and the scope around it. -/
def blocks (d : Definition) : List Node := d.above.takeWhile (·.scopeKind?.isNone)

/-- Whether a definition stands in the body of a class itself. -/
def isMethod (d : Definition) : Bool := d.above.head?.any Node.isClass

def isStatic (d : Definition) : Bool :=
  (FunctionFact.decoratorNames d.stmt).contains "staticmethod"

def signature (d : Definition) : Signature := FunctionFact.signature d.stmt

/-- All parameters in the order of the signature. -/
def parameters (d : Definition) : List NamedParameter :=
  (d.signature.positionalOnly ++ d.signature.positional).map .ofParameter
    ++ d.signature.rest.toList.map (.ofRest d.stmt.pos.line)
    ++ d.signature.keywordOnly.map .ofParameter
    ++ d.signature.keywords.toList.map (.ofRest d.stmt.pos.line)

/-- Whether the first parameter is the receiver: that of a method that is not static, if it is one
to which an argument is passed by its place. -/
def hasReceiver (d : Definition) : Bool :=
  d.isMethod && !d.isStatic
    && !(d.signature.positionalOnly ++ d.signature.positional).isEmpty

/-- The parameters without the receiver. -/
def others (d : Definition) : List NamedParameter :=
  if d.hasReceiver then d.parameters.tail else d.parameters

/-- Whether it says what is returned. -/
def hasReturnHint (d : Definition) : Bool := (d.stmt.part? .returns).isSome

/-- A function that is seen from outside: its name is not private, and it stands in no function and
in no class with a private name, at any depth. -/
def IsPublic (d : Definition) : Prop :=
  Name.isPrivate d.name = false ∧ ∀ n ∈ d.above, n.isFunction = false ∧ ¬ n.IsPrivateClass

end Definition

/-- The functions that a tree defines, in pre-order. -/
def Syntax.Stmt.definitions (tree : Stmt) : List Definition :=
  (tree.places []).filterMap Definition.ofPlace?

/-! ### Where a function is defined -/

namespace Definition

theorem place_mem_of_mem_definitions {tree : Stmt} {d : Definition} (h : d ∈ tree.definitions) :
    ⟨.stmt d.stmt, d.above⟩ ∈ tree.places [] := by
  obtain ⟨⟨node, above⟩, hp, hd⟩ := List.mem_filterMap.mp h
  rw [ofPlace?] at hd
  split at hd
  case h_1 s hnode =>
    obtain rfl : node = .stmt s := hnode
    split at hd
    case h_1 => obtain rfl := Option.some.inj hd; exact hp
    case h_2 => cases hd
  case h_2 => cases hd

/-- The scope around a definition is what comes behind the blocks around it. -/
theorem scope?_eq_some_iff {tree : Stmt} {d : Definition} (h : d ∈ tree.definitions) {c : Place} :
    d.scope? = some c ↔
      d.above = d.blocks ++ c.node :: c.above ∧ c.node.scopeKind?.isSome = true := by
  rw [scope?, Place.scopes,
    head?_scopesAmong_of_stmts (Stmt.isStmt_above (place_mem_of_mem_definitions h))]
  constructor
  · rintro ⟨blocks, hsplit, hopens, hblocks⟩
    refine ⟨?_, hopens⟩
    have hclosed : ∀ n ∈ blocks, n.scopeKind?.isNone = true := fun n hn => by
      rw [hblocks n hn]; rfl
    rw [Definition.blocks, hsplit, List.takeWhile_append_of_pos hclosed,
      List.takeWhile_cons_of_neg (by simpa using Option.isSome_iff_ne_none.mp hopens),
      List.append_nil]
  · rintro ⟨hsplit, hopens⟩
    refine ⟨d.blocks, hsplit, hopens, fun n hn => Option.isNone_iff_eq_none.mp ?_⟩
    exact List.mem_takeWhile_imp (p := fun n : Node => n.scopeKind?.isNone) hn

/-- A method is what the body of a class defines, and not a block in that body. -/
theorem isMethod_iff {tree : Stmt} {d : Definition} (h : d ∈ tree.definitions) :
    d.isMethod = true ↔ d.InClass ∧ d.blocks = [] := by
  rw [isMethod, Option.any_eq_true]
  constructor
  · rintro ⟨n, hhead, hclass⟩
    obtain ⟨outer, habove⟩ := List.head?_eq_some_iff.mp hhead
    have hopens : n.scopeKind?.isSome = true := by rw [Node.scopeKind?_of_isClass hclass]; rfl
    have hblocks : d.blocks = [] := by
      rw [blocks, habove, List.takeWhile_cons_of_neg]
      simpa using Option.isSome_iff_ne_none.mp hopens
    refine ⟨⟨⟨n, outer⟩, (scope?_eq_some_iff h).mpr ⟨?_, hopens⟩, hclass⟩, hblocks⟩
    rw [hblocks, habove, List.nil_append]
  · rintro ⟨⟨c, hscope, hclass⟩, hblocks⟩
    have hsplit := ((scope?_eq_some_iff h).mp hscope).1
    rw [hblocks, List.nil_append] at hsplit
    exact ⟨c.node, by rw [hsplit, List.head?_cons], hclass⟩

end Definition

/-! ### Facts about definitions -/

/-- What a fact says of the function that is defined. -/
structure FunctionFact.Describes (f : FunctionFact) (d : Definition) : Prop where
  name : f.name = d.name
  qualifiedName : f.qualifiedName = Syntax.qualifiedName (.stmt d.stmt :: d.above)
  isMethod : f.isMethod = d.isMethod
  parameters : f.parameters = NamedParameter.facts d.hasReceiver d.parameters
  returns : f.returns.isSome = d.hasReturnHint
  isPublic : f.isPublic = true ↔ d.IsPublic
  pos : f.pos = d.stmt.pos

namespace FunctionFact

/-- What is made of elements with their indices is made of the elements alone if indices from one on
do not matter. -/
theorem map_zipIdx_succ {α β : Type} {f : α × Nat → β} {g : α → β}
    (h : ∀ x i, f (x, i + 1) = g x) (xs : List α) (k : Nat) :
    (xs.zipIdx (k + 1)).map f = xs.map g := by
  induction xs generalizing k with
  | nil => rfl
  | cons x rest ih => rw [List.zipIdx_cons, List.map_cons, ih, List.map_cons, h]

theorem positionalFacts_eq (hasReceiver : Bool) (ps : List Parameter) :
    positionalFacts hasReceiver ps =
      NamedParameter.facts hasReceiver (ps.map .ofParameter) := by
  cases ps with
  | nil => rfl
  | cons p rest =>
    rw [positionalFacts, List.zipIdx_cons, List.map_cons, Nat.zero_add,
      map_zipIdx_succ (g := fun q => (NamedParameter.ofParameter q).fact) fun q i => by
        simp [NamedParameter.fact, NamedParameter.ofParameter],
      List.map_cons, NamedParameter.facts, List.map_map]
    simp [NamedParameter.fact, NamedParameter.ofParameter, Function.comp_def]

theorem parameterFacts_eq (d : Definition) :
    parameterFacts (d.isMethod && !d.isStatic) d.stmt.pos.line d.signature =
      NamedParameter.facts d.hasReceiver d.parameters := by
  have hrest (ps : List RestParameter) : ps.map (restFact d.stmt.pos.line) =
      (ps.map (.ofRest d.stmt.pos.line)).map NamedParameter.fact := by rw [List.map_map]; rfl
  have hnamed (ps : List Parameter) :
      (ps.map fun p => (⟨p.name, p.annotated, false, p.pos⟩ : ParameterFact)) =
        (ps.map .ofParameter).map NamedParameter.fact := by rw [List.map_map]; rfl
  rw [parameterFacts, positionalFacts_eq, hrest, hrest, hnamed, Definition.parameters,
    Definition.hasReceiver]
  cases hpositional : d.signature.positionalOnly ++ d.signature.positional with
  | nil =>
    rw [List.isEmpty_nil, Bool.not_true, Bool.and_false, NamedParameter.facts_false]
    simp only [List.map_append, List.map_nil, NamedParameter.facts]
  | cons p rest =>
    rw [List.isEmpty_cons, Bool.not_false, Bool.and_true, List.append_assoc, List.append_assoc,
      List.append_assoc, List.append_assoc, NamedParameter.facts_append (by simp)]
    simp only [List.map_append]

theorem isPublic_eq_true_iff (d : Definition) :
    (!Name.isPrivate d.name && !d.above.any Node.isFunction && !inPrivateClass d.above) = true ↔
      d.IsPublic := by
  rw [Definition.IsPublic, forall₂_and, ← inPrivateClass_eq_false_iff]
  simp [and_assoc]

theorem hintText_ok {e : Option Expr} {hint : Option String} (h : hintText e = .ok hint) :
    hint.isSome = e.isSome := by
  cases e with
  | none => obtain rfl := Except.ok.inj h; rfl
  | some e =>
    rw [hintText] at h
    cases htext : e.written? none with
    | none => rw [htext] at h; cases h
    | some text => rw [htext] at h; obtain rfl := Except.ok.inj h; rfl

theorem ofPlace?_eq_none {verbs : List String} {p : Place} (h : ofPlace? verbs p = none) :
    Definition.ofPlace? p = none := by
  rw [ofPlace?] at h
  rw [Definition.ofPlace?]
  split
  case h_1 s hnode =>
    rw [hnode] at h
    split
    case h_1 hkind => simp [hkind] at h
    case h_2 => rfl
  case h_2 => rfl

/-- The fact about a place is about the function that is defined there. -/
theorem describes_of_ofPlace? {verbs : List String} {p : Place} {f : FunctionFact}
    (h : ofPlace? verbs p = some (.ok f)) :
    ∃ d, Definition.ofPlace? p = some d ∧ f.Describes d := by
  rw [ofPlace?] at h
  cases hnode : p.node with
  | expr e => rw [hnode] at h; cases h
  | stmt s =>
    rw [hnode] at h
    dsimp only at h
    split at h
    case h_2 => cases h
    case h_1 name isAsync hkind =>
      rw [ofStatement] at h
      cases hhint : hintText (s.part? .returns) with
      | error fault => rw [hhint] at h; cases h
      | ok hint =>
        rw [hhint] at h
        obtain rfl := Except.ok.inj (Option.some.inj h)
        let d : Definition := ⟨name, s, p.above⟩
        exact ⟨d, by rw [Definition.ofPlace?, hnode]; dsimp only; rw [hkind],
          rfl, rfl, rfl, parameterFacts_eq d, hintText_ok hhint, isPublic_eq_true_iff d, rfl⟩

/-- The facts about the functions at some places, if there are such. -/
theorem describes_ofPlaces {verbs : List String} {places : List Place} {fs : List FunctionFact}
    (h : (places.filterMap (ofPlace? verbs)).mapM (fun f => f) = .ok fs) :
    List.Forall₂ Describes fs (places.filterMap Definition.ofPlace?) := by
  induction places generalizing fs with
  | nil => obtain rfl := Except.ok.inj h; exact .nil
  | cons p rest ih =>
    cases hfact : ofPlace? verbs p with
    | none =>
      rw [List.filterMap_cons_none hfact] at h
      rw [List.filterMap_cons_none (ofPlace?_eq_none hfact)]
      exact ih h
    | some answer =>
      rw [List.filterMap_cons_some hfact] at h
      obtain ⟨f, fs, rfl, hfs, rfl⟩ := Traversal.mapM_cons_eq_ok_iff.mp h
      obtain ⟨d, hd, hdescribes⟩ := describes_of_ofPlace? hfact
      rw [List.filterMap_cons_some hd]
      exact .cons hdescribes (ih hfs)

end FunctionFact

/-- A tree that has facts has one for each function that it defines. -/
theorem Facts.functions_of_ofTree {verbs : List String} {suppressions : Suppressions} {tree : Stmt}
    {facts : Facts} (h : Facts.ofTree verbs suppressions tree = .ok facts) :
    List.Forall₂ FunctionFact.Describes facts.functions tree.definitions :=
  FunctionFact.describes_ofPlaces (Facts.of_ofTree h).1

/-- A text with something that can be seen in its facts has a tree and facts. -/
theorem Facts.exists_of_text (text : String) (seen : Stmt → Facts → Bool)
    (h : (programOf [] text).toOption.any (fun tree =>
      (Facts.ofTree [] [] tree).toOption.any (seen tree)) = true) :
    ∃ tree facts, programOf [] text = .ok tree ∧ Facts.ofTree [] [] tree = .ok facts ∧
      seen tree facts = true := by
  obtain ⟨tree, htree, h⟩ := (Option.any_eq_true _ _).mp h
  obtain ⟨facts, hfacts, h⟩ := (Option.any_eq_true _ _).mp h
  exact ⟨tree, facts, Traversal.eq_ok_of_toOption htree, Traversal.eq_ok_of_toOption hfacts, h⟩

end SourceConventions
