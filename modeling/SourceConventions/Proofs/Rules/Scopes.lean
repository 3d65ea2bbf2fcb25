import SourceConventions.Proofs.Facts.Definitions
import SourceConventions.Proofs.Facts.Scopes
import SourceConventions.Proofs.Sorting
import SourceConventions.Rules.TypeHint

/-!
# Variables that are told once

Two rules tell a variable once, at the first place where they object to it. They know it by the name
of its scope and its own. So the variable of one scope is told at its own first place unless another
scope of that name comes into it: one that is earlier and binds the name in a way that the rule
objects to, or, where annotations are asked for, one that annotates the name.
-/

namespace SourceConventions.Rules

open Syntax

/-! ### The first variable of a key -/

theorem firstOfKey_go_eq (seen : List (String × String)) (vs : List VariableFact) :
    firstOfKey.go seen vs = (Sorting.distinctBy (fun v w => scopeKey v == scopeKey w) vs).filter
      fun v => !seen.contains (scopeKey v) := by
  induction vs generalizing seen with
  | nil => rfl
  | cons v rest ih =>
    rw [firstOfKey.go, Sorting.distinctBy, List.filter_cons, List.filter_filter, ih, ih]
    cases hseen : seen.contains (scopeKey v) with
    | true =>
      refine List.filter_congr fun w _ => ?_
      cases hkey : scopeKey v == scopeKey w with
      | true => rw [← beq_iff_eq.mp hkey, hseen]; rfl
      | false => simp
    | false =>
      refine congrArg (v :: ·) (List.filter_congr fun w _ => ?_)
      rw [List.contains_cons, Bool.not_or, Bool.and_comm, BEq.comm]

theorem firstOfKey_eq_distinctBy (vs : List VariableFact) :
    firstOfKey vs = Sorting.distinctBy (fun v w => scopeKey v == scopeKey w) vs := by
  rw [firstOfKey, firstOfKey_go_eq]
  exact List.filter_eq_self.mpr fun _ _ => rfl

theorem scopeKey_fact {tree : Stmt} {b : ScopedVariable} (h : b ∈ tree.variables) :
    scopeKey b.fact = b.names := by
  rw [scopeKey, (Stmt.of_mem_variables h).2.2.2.scopeName]
  rfl

/-! ### The places that are told -/

/-- The places of variables where a rule objects and has not done so under the same key. -/
def told (objects : ScopedVariable → Bool) (vs : List ScopedVariable) : List ScopedVariable :=
  Sorting.distinctBy (fun a b => scopeKey a.fact == scopeKey b.fact) (vs.filter objects)

variable {objects : ScopedVariable → Bool} {vs : List ScopedVariable}

theorem told_sublist : (told objects vs).Sublist vs :=
  (Sorting.distinctBy_sublist _ _).trans List.filter_sublist

theorem objects_of_mem_told {b : ScopedVariable} (h : b ∈ told objects vs) : objects b = true :=
  (List.mem_filter.mp ((Sorting.distinctBy_sublist _ _).subset h)).2

theorem firstOfKey_map_fact {judged : VariableFact → Bool}
    (hjudged : ∀ b ∈ vs, judged b.fact = objects b) :
    firstOfKey ((vs.map ScopedVariable.fact).filter judged)
      = (told objects vs).map ScopedVariable.fact := by
  have hfilter : vs.filter (judged ∘ ScopedVariable.fact) = vs.filter objects :=
    List.filter_congr hjudged
  rw [List.filter_map, firstOfKey_eq_distinctBy, Sorting.distinctBy_map, told, hfilter]

/-- Of all places where one variable is bound the first one is told, unless the rule objects to
another variable of its names before. -/
theorem filter_isSame_told {tree : Stmt} {front back : List ScopedVariable} {b : ScopedVariable}
    (hsplit : tree.variables = front ++ b :: back) (hb : objects b = true)
    (hfirst : ∀ x ∈ front, objects x = true → x.isSame b = false) :
    (told objects tree.variables).filter (·.isSame b)
      = if ∃ x ∈ front, objects x = true ∧ x.names = b.names then [] else [b] := by
  have hmem : b ∈ tree.variables := by simp [hsplit]
  have hfront : ∀ x ∈ front, x ∈ tree.variables := fun x hx => by simp [hsplit, hx]
  -- what is the same variable has the same key, and one place of that key is told
  have hkey : (told objects tree.variables).filter (·.isSame b)
      = ((tree.variables.filter objects).find? fun x => scopeKey x.fact == b.names).toList.filter
          (·.isSame b) := by
    rw [← Sorting.filter_distinctBy_key, List.filter_filter]
    refine List.filter_congr fun x hx => ?_
    have hx := told_sublist.subset hx
    cases hsame : x.isSame b with
    | false => rfl
    | true =>
      rw [scopeKey_fact hx, ScopedVariable.names_eq_of_isSame hx hmem hsame, beq_self_eq_true]
      rfl
  rw [hkey, hsplit, List.filter_append, List.filter_cons_of_pos hb, List.find?_append]
  cases hfound : (front.filter objects).find? fun x => scopeKey x.fact == b.names with
  | none =>
    rw [if_neg]
    · simp [scopeKey_fact hmem]
    · rintro ⟨x, hx, hobjects, hnames⟩
      refine List.find?_eq_none.mp hfound x (List.mem_filter.mpr ⟨hx, hobjects⟩) ?_
      rw [scopeKey_fact (hfront x hx), hnames, beq_self_eq_true]
  | some x =>
    obtain ⟨hx, hobjects⟩ := List.mem_filter.mp (List.mem_of_find?_eq_some hfound)
    have hkey := List.find?_some hfound
    rw [scopeKey_fact (hfront x hx)] at hkey
    rw [if_pos ⟨x, hx, hobjects, beq_iff_eq.mp hkey⟩]
    simp [hfirst x hx hobjects]

/-! ### Generic names -/

/-- Whether a variable has one of some names in a scope with more than so many statements. -/
def isGenericIn (names : List String) (most : Nat) (b : ScopedVariable) : Bool :=
  names.contains b.fact.name && b.scope.place.node.scopeKind? ≠ some .comprehension
    && most < VariableFact.statementsIn b.scope.place.node

def genericFinding (path : String) (b : ScopedVariable) : Finding :=
  finding .genericName path b.fact.pos b.fact.name
    (s!"Generic variable name '{b.fact.name}' in {b.scope.place.dottedName} "
      ++ s!"({VariableFact.statementsIn b.scope.place.node} statements); use a descriptive name")

variable {verbs : List String} {suppressions : Suppressions} {tree : Stmt} {facts : Facts}

theorem isGeneric_fact {b : ScopedVariable} (h : b ∈ tree.variables) (names : List String)
    (most : Nat) : isGeneric names most b.fact = isGenericIn names most b := by
  have hbound := (Stmt.of_mem_variables h).2.2.2
  rw [isGeneric, isGenericIn, hbound.opens, hbound.statements]
  simp

/-- A generic name is told at its first place in its scope if the scope is large enough, and nowhere
else, unless it is told of an earlier scope that has the name of its scope. -/
theorem genericName_by_scope (hfacts : Facts.ofTree verbs suppressions tree = .ok facts)
    (names : List String) (most : Nat) (path : String) :
    ∃ bs : List ScopedVariable,
      genericName names most path facts = bs.map (genericFinding path) ∧
      bs.Sublist tree.variables ∧
      (∀ b ∈ bs, isGenericIn names most b = true) ∧
      ∀ front b back, tree.variables = front ++ b :: back →
        (∀ x ∈ front, x.isSame b = false) →
        bs.filter (·.isSame b) =
          if isGenericIn names most b = true ∧
            ∀ x ∈ front, isGenericIn names most x = true → x.names ≠ b.names then [b] else [] := by
  refine ⟨told (isGenericIn names most) tree.variables, ?_, told_sublist,
    fun b => objects_of_mem_told, fun front b back hsplit hfirst => ?_⟩
  · rw [genericName, Facts.bindings_of_ofTree hfacts,
      firstOfKey_map_fact fun b hb => isGeneric_fact hb names most, List.map_map]
    refine List.map_congr_left fun b hb => ?_
    have hbound := (Stmt.of_mem_variables (told_sublist.subset hb)).2.2.2
    rw [Function.comp_apply, genericFinding, hbound.scopeName, hbound.statements]
  · cases hgeneric : isGenericIn names most b with
    | true =>
      rw [filter_isSame_told hsplit hgeneric fun x hx _ => hfirst x hx]
      by_cases hearlier : ∃ x ∈ front, isGenericIn names most x = true ∧ x.names = b.names
      · obtain ⟨x, hx, hxgeneric, hnames⟩ := hearlier
        rw [if_pos ⟨x, hx, hxgeneric, hnames⟩, if_neg fun h => h.2 x hx hxgeneric hnames]
      · rw [if_neg hearlier, if_pos ⟨rfl, fun x hx hxgeneric hnames =>
          hearlier ⟨x, hx, hxgeneric, hnames⟩⟩]
    | false =>
      have hmem : b ∈ tree.variables := by simp [hsplit]
      rw [if_neg fun h => Bool.false_ne_true h.1]
      -- the scope and the name decide, and they are the same at all places of a variable
      refine List.filter_eq_nil_iff.mpr fun x hx hsame => ?_
      obtain ⟨hscope, hname⟩ := (ScopedVariable.isSame_iff (told_sublist.subset hx) hmem).mp hsame
      have hxgeneric := objects_of_mem_told hx
      rw [isGenericIn, hscope, hname] at hxgeneric
      exact Bool.false_ne_true (hgeneric.symm.trans hxgeneric)

/-- A text with two variables of which something can be seen has a tree and facts. -/
private theorem exists_facts_of_pair (text : String)
    (seen : ScopedVariable → ScopedVariable → Bool)
    (h : (programOf [] text).toOption.any (fun tree =>
      (Facts.ofTree [] [] tree).toOption.any fun _ => match tree.variables with
        | [a, b] => seen a b
        | _ => false) = true) :
    ∃ tree facts a b, programOf [] text = .ok tree ∧ Facts.ofTree [] [] tree = .ok facts ∧
      tree.variables = [a, b] ∧ seen a b = true := by
  obtain ⟨tree, facts, htree, hfacts, hseen⟩ := Facts.exists_of_text text _ h
  split at hseen
  case h_2 => cases hseen
  case h_1 a b hvariables => exact ⟨tree, facts, a, b, htree, hfacts, hvariables, hseen⟩

/-- A function that is defined twice. -/
def twoFunctions : String := "def f():\n tmp=1\ndef f():\n tmp=2\n"

/-- The name in the second function is not told, though that function is as large as the first. -/
theorem genericName_in_twoFunctions :
    ∃ tree facts first second, programOf [] twoFunctions = .ok tree ∧
      Facts.ofTree [] [] tree = .ok facts ∧ tree.variables = [first, second] ∧
      isGenericIn ["tmp"] 0 second = true ∧ first.isSame second = false ∧
      ∃ bs : List ScopedVariable,
        genericName ["tmp"] 0 "a.py" facts = bs.map (genericFinding "a.py") ∧
        bs.filter (·.isSame first) = [first] ∧ bs.filter (·.isSame second) = [] := by
  obtain ⟨tree, facts, first, second, htree, hfacts, hvariables, hseen⟩ :=
    exists_facts_of_pair twoFunctions (fun a b =>
      isGenericIn ["tmp"] 0 a && isGenericIn ["tmp"] 0 b && !a.isSame b && a.names == b.names)
      (by decide +kernel)
  simp only [Bool.and_eq_true, Bool.not_eq_true', beq_iff_eq] at hseen
  obtain ⟨⟨⟨hfirst, hsecond⟩, hother⟩, hnames⟩ := hseen
  obtain ⟨bs, hbs, -, -, htold⟩ := genericName_by_scope hfacts ["tmp"] 0 "a.py"
  refine ⟨tree, facts, first, second, htree, hfacts, hvariables, hsecond, hother, bs, hbs, ?_, ?_⟩
  · rw [htold [] first [second] hvariables (by simp), if_pos ⟨hfirst, by simp⟩]
  · rw [htold [first] second [] hvariables (by simpa using hother), if_neg]
    exact fun h => h.2 first List.mem_cons_self hfirst hnames

/-! ### Annotations -/

/-- Whether a variable of a module or a class is bound in a way that asks for an annotation. -/
def asksForHint (publicOnly : Bool) (b : ScopedVariable) : Bool :=
  (b.scope.place.node.scopeKind? = some .module || b.scope.place.node.scopeKind? = some .classBody)
    && b.fact.binding = .assign && !(Name.isDunder b.fact.name || b.fact.isTypeAlias)
    && (!publicOnly || b.fact.isPublic)

def hintFinding (path : String) (b : ScopedVariable) : Finding :=
  finding .missingHint path b.fact.pos b.fact.name
    s!"Missing type annotation for {b.fact.scope.name} variable '{b.fact.name}'"

theorem needsHint_fact {b : ScopedVariable} (h : b ∈ tree.variables) (publicOnly : Bool) :
    needsHint publicOnly b.fact = asksForHint publicOnly b := by
  rw [needsHint, asksForHint, (Stmt.of_mem_variables h).2.2.2.opens]
  simp

/-- The names of what is annotated somewhere in a tree. -/
def annotatedNames (tree : Stmt) : List (String × String) :=
  (tree.variables.filter (·.fact.binding = .annotated)).map ScopedVariable.names

theorem annotatedKeys_facts (hfacts : Facts.ofTree verbs suppressions tree = .ok facts) :
    annotatedKeys facts.bindings = annotatedNames tree := by
  rw [annotatedKeys, Facts.bindings_of_ofTree hfacts, List.filter_map, List.map_map,
    annotatedNames]
  exact List.map_congr_left fun b hb => scopeKey_fact (List.mem_of_mem_filter hb)

/-- Whether a variable asks for an annotation, and none of its names is annotated. -/
def lacksHint (publicOnly : Bool) (tree : Stmt) (b : ScopedVariable) : Bool :=
  asksForHint publicOnly b && !(annotatedNames tree).contains b.names

/-- What lacks an annotation is told after the functions. -/
theorem missingHint_eq (hfacts : Facts.ofTree verbs suppressions tree = .ok facts)
    (publicOnly : Bool) (path : String) :
    missingHint publicOnly path facts =
      facts.functions.filterMap (functionHint publicOnly path)
        ++ (told (lacksHint publicOnly tree) tree.variables).map (hintFinding path) := by
  have hjudged : ∀ b ∈ tree.variables,
      (needsHint publicOnly b.fact && !(annotatedNames tree).contains (scopeKey b.fact)) =
        lacksHint publicOnly tree b :=
    fun b hb => by rw [needsHint_fact hb, scopeKey_fact hb, lacksHint]
  rw [missingHint, unannotatedVariables, annotatedKeys_facts hfacts,
    Facts.bindings_of_ofTree hfacts, firstOfKey_map_fact hjudged, List.map_map]
  rfl

/-- A variable is told at the first place in its scope that asks for an annotation, and nowhere
else, unless a variable of its names is annotated or it is told of an earlier scope that has the
name of its scope. -/
theorem missingHint_by_scope (hfacts : Facts.ofTree verbs suppressions tree = .ok facts)
    (publicOnly : Bool) (path : String) :
    ∃ bs : List ScopedVariable,
      missingHint publicOnly path facts =
        facts.functions.filterMap (functionHint publicOnly path) ++ bs.map (hintFinding path) ∧
      bs.Sublist tree.variables ∧
      (∀ b ∈ bs, asksForHint publicOnly b = true) ∧
      ∀ front b back, tree.variables = front ++ b :: back → asksForHint publicOnly b = true →
        (∀ x ∈ front, asksForHint publicOnly x = true → x.isSame b = false) →
        bs.filter (·.isSame b) =
          if (∃ x ∈ tree.variables, x.fact.binding = .annotated ∧ x.names = b.names) ∨
            ∃ x ∈ front, asksForHint publicOnly x = true ∧ x.names = b.names
          then [] else [b] := by
  let objects := lacksHint publicOnly tree
  have hobjects (b : ScopedVariable) (h : objects b = true) : asksForHint publicOnly b = true :=
    ((Bool.and_eq_true _ _).mp h).1
  have hannotated (b : ScopedVariable) : b.names ∈ annotatedNames tree ↔
      ∃ x ∈ tree.variables, x.fact.binding = .annotated ∧ x.names = b.names := by
    simp [annotatedNames, and_assoc]
  refine ⟨told objects tree.variables, missingHint_eq hfacts publicOnly path, told_sublist,
    fun b hb => hobjects b (objects_of_mem_told hb), fun front b back hsplit hasks hfirst => ?_⟩
  · have hmem : b ∈ tree.variables := by simp [hsplit]
    by_cases hdeclared : b.names ∈ annotatedNames tree
    · rw [if_pos (.inl ((hannotated b).mp hdeclared))]
      refine List.filter_eq_nil_iff.mpr fun x hx hsame => ?_
      have hnames := ScopedVariable.names_eq_of_isSame (told_sublist.subset hx) hmem hsame
      have hobjects := objects_of_mem_told hx
      simp [objects, lacksHint, hnames, hdeclared] at hobjects
    · have hb : objects b = true := by simp [objects, lacksHint, hasks, hdeclared]
      rw [filter_isSame_told hsplit hb fun x hx hxobjects => hfirst x hx (hobjects x hxobjects)]
      -- before the first place a rule objects just where an annotation is asked for
      refine if_congr ⟨?_, ?_⟩ rfl rfl
      · rintro ⟨x, hx, hxobjects, hnames⟩
        exact .inr ⟨x, hx, hobjects x hxobjects, hnames⟩
      · rintro (hnames | ⟨x, hx, hxasks, hnames⟩)
        · exact absurd ((hannotated b).mpr hnames) hdeclared
        · exact ⟨x, hx, by simp [objects, lacksHint, hxasks, hnames, hdeclared], hnames⟩

/-- A class that is defined twice and annotates its variable the first time only. -/
def twoClasses : String := "class C:\n x:int=1\nclass C:\n x=1\n"

/-- The variable of the second class is not told, though that class does not annotate it. -/
theorem missingHint_in_twoClasses :
    ∃ tree facts first second, programOf [] twoClasses = .ok tree ∧
      Facts.ofTree [] [] tree = .ok facts ∧ tree.variables = [first, second] ∧
      asksForHint true second = true ∧ first.isSame second = false ∧
      ∃ bs : List ScopedVariable,
        missingHint true "a.py" facts =
          facts.functions.filterMap (functionHint true "a.py") ++ bs.map (hintFinding "a.py") ∧
        bs.filter (·.isSame second) = [] := by
  obtain ⟨tree, facts, first, second, htree, hfacts, hvariables, hseen⟩ :=
    exists_facts_of_pair twoClasses (fun a b =>
      a.fact.binding = .annotated && asksForHint true b && !a.isSame b && a.names == b.names)
      (by decide +kernel)
  simp only [Bool.and_eq_true, Bool.not_eq_true', beq_iff_eq, decide_eq_true_eq] at hseen
  obtain ⟨⟨⟨hannotated, hsecond⟩, hother⟩, hnames⟩ := hseen
  obtain ⟨bs, hbs, -, -, htold⟩ := missingHint_by_scope hfacts true "a.py"
  refine ⟨tree, facts, first, second, htree, hfacts, hvariables, hsecond, hother, bs, hbs, ?_⟩
  rw [htold [first] second [] hvariables hsecond (by simp [hother]), if_pos]
  exact .inl ⟨first, by simp [hvariables], hannotated, hnames⟩

end SourceConventions.Rules
