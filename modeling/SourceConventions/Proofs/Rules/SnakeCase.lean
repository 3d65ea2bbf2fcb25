import SourceConventions.Proofs.Facts.Definitions
import SourceConventions.Rules.Naming

/-!
# Names that are told

A name in snake case has small letters, digits and underscores only, and a letter stands behind the
underscores at its start; a single underscore is one too. So a name of underscores or one that goes
on with a digit is told although all its characters are fine, and so is a parameter that has the
name of something special. All else that is told has another character in its name.
-/

namespace SourceConventions

open Syntax

/-! ### Names in snake case -/

namespace Name

variable {name : String} {cs : List Char}

/-- A name has a character that is no small letter, no digit and no underscore. -/
def HasOtherChar (name : String) : Prop :=
  ∃ c ∈ name.toList, ¬ (c.isLower = true ∨ c.isDigit = true ∨ c = '_')

/-- A small letter stands behind the underscores at the start of a name. -/
def StartsWithLetter (name : String) : Prop :=
  ∃ n c rest, name.toList = List.replicate n '_' ++ c :: rest ∧ c.isLower = true

theorem dropFinalLineFeed_of_getLast?_ne (h : cs.getLast? ≠ some '\n') :
    dropFinalLineFeed cs = cs := if_neg h

theorem isSnakeChar_iff {c : Char} :
    isSnakeChar c = true ↔ c.isLower = true ∨ c.isDigit = true ∨ c = '_' := by
  simp [isSnakeChar, or_assoc]

/-- A shape is read behind all underscores at the start. -/
theorem hasShape_iff {first rest : Char → Bool} (hfirst : first '_' = false)
    (h : cs.getLast? ≠ some '\n') :
    hasShape first rest cs = true ↔
      ∃ n c more, cs = List.replicate n '_' ++ c :: more ∧ first c = true ∧
        ∀ d ∈ more, rest d = true := by
  rw [hasShape, dropFinalLineFeed_of_getLast?_ne h]
  constructor
  · intro hshape
    split at hshape
    case h_1 => cases hshape
    case h_2 c more hdrop =>
      rw [Bool.and_eq_true, List.all_eq_true] at hshape
      have hunderscores : cs.takeWhile (· == '_') =
          List.replicate (cs.takeWhile (· == '_')).length '_' :=
        List.eq_replicate_of_mem fun c hc =>
          beq_iff_eq.mp (List.mem_takeWhile_imp (p := (· == '_')) hc)
      refine ⟨(cs.takeWhile (· == '_')).length, c, more, ?_, hshape⟩
      rw [← hunderscores, ← hdrop, List.takeWhile_append_dropWhile]
  · rintro ⟨n, c, more, rfl, hc, hmore⟩
    have hne : c ≠ '_' := by
      rintro rfl
      exact Bool.false_ne_true (hfirst.symm.trans hc)
    have hdrop : (List.replicate n '_' ++ c :: more).dropWhile (· == '_') = c :: more := by
      rw [List.dropWhile_append_of_pos (by simp), List.dropWhile_cons_of_neg (by simpa using hne)]
    rw [hdrop]
    simpa [hc] using hmore

theorem not_hasOtherChar_iff : ¬ HasOtherChar name ↔ name.toList.all isSnakeChar = true := by
  simp only [HasOtherChar, isSnakeChar_iff, not_exists, not_and, not_not, List.all_eq_true]

theorem isSnakeCase_iff (h : name.toList.getLast? ≠ some '\n') :
    isSnakeCase name = true ↔ ¬ HasOtherChar name ∧ (name = "_" ∨ StartsWithLetter name) := by
  rw [isSnakeCase, Bool.or_eq_true, beq_iff_eq, hasShape_iff rfl h, not_hasOtherChar_iff]
  constructor
  · rintro (rfl | ⟨n, c, more, hname, hc, hmore⟩)
    · exact ⟨rfl, .inl rfl⟩
    · refine ⟨List.all_eq_true.mpr fun d hd => ?_, .inr ⟨n, c, more, hname, hc⟩⟩
      rw [hname, List.mem_append, List.mem_cons] at hd
      rcases hd with hd | rfl | hd
      · rw [List.eq_of_mem_replicate hd]
        rfl
      · exact isSnakeChar_iff.mpr (.inl hc)
      · exact hmore d hd
  · rintro ⟨hall, rfl | ⟨n, c, more, hname, hc⟩⟩
    · exact .inl rfl
    · refine .inr ⟨n, c, more, hname, hc, fun d hd => List.all_eq_true.mp hall d ?_⟩
      rw [hname]
      exact List.mem_append_right _ (List.mem_cons_of_mem _ hd)

end Name

/-! ### What has a name -/

/-- What the rule about snake case looks at. -/
inductive Symbol where
  | function (f : FunctionFact)
  /-- A parameter that is no receiver, with its function. -/
  | parameter (f : FunctionFact) (p : ParameterFact)
  | binding (v : VariableFact)

namespace Symbol

def name : Symbol → String
  | .function f => f.name
  | .parameter _ p => p.name
  | .binding v => v.name

def pos : Symbol → Position
  | .function f => f.pos
  | .parameter _ p => p.pos
  | .binding v => v.pos

/-- No name would be told. -/
def IsExempt : Symbol → Prop
  | .function f => Name.isDunder f.name = true
  | .parameter _ _ => False
  | .binding v => Name.isDunder v.name = true ∨ v.isTypeAlias = true ∨ v.isConstant = true

def isMisnamed : Symbol → Bool
  | .function f => Rules.isMisnamedFunction f
  | .parameter _ p => !Name.isSnakeCase p.name
  | .binding v => Rules.isMisnamedVariable v

def complaint : Symbol → String
  | .function f =>
    let kind := if f.isMethod then "Method" else "Function"
    s!"{kind} name '{f.name}' is not snake_case"
  | .parameter f p => s!"Parameter '{p.name}' of '{f.qualifiedName}' is not snake_case"
  | .binding v =>
    s!"Variable name '{v.name}' is not snake_case "
      ++ "(use UPPER_SNAKE_CASE only for constants)"

def finding (path : String) (s : Symbol) : Finding :=
  Rules.finding .snakeCase path s.pos s.name s.complaint

end Symbol

/-- A function and its parameters, the receiver left out. -/
def FunctionFact.symbols (f : FunctionFact) : List Symbol :=
  .function f :: (f.parameters.filter (!·.isReceiver)).map (.parameter f)

/-- Functions with their parameters first, variables after them. -/
def Facts.symbols (facts : Facts) : List Symbol :=
  facts.functions.flatMap FunctionFact.symbols ++ facts.bindings.map .binding

namespace Rules

/-! ### What is told -/

theorem snakeCaseFunction_eq (path : String) (f : FunctionFact) :
    snakeCaseFunction path f = (f.symbols.filter Symbol.isMisnamed).map (Symbol.finding path) := by
  have hparameters : ((f.parameters.filter (!·.isReceiver)).map (Symbol.parameter f)).filter
      Symbol.isMisnamed = (f.parameters.filter isMisnamedParameter).map (.parameter f) := by
    rw [List.filter_map, List.filter_filter]
    refine congrArg _ (List.filter_congr fun p _ => ?_)
    cases hreceiver : p.isReceiver <;> simp [Symbol.isMisnamed, isMisnamedParameter, hreceiver]
  rw [snakeCaseFunction, FunctionFact.symbols, List.filter_cons, hparameters]
  cases hname : isMisnamedFunction f <;>
    simp [Symbol.isMisnamed, Symbol.finding, Symbol.pos, Symbol.name, Symbol.complaint, hname]

theorem snakeCase_eq (path : String) (facts : Facts) :
    snakeCase path facts = (facts.symbols.filter Symbol.isMisnamed).map (Symbol.finding path) := by
  have hvariables : (facts.bindings.map Symbol.binding).filter Symbol.isMisnamed =
      (facts.bindings.filter isMisnamedVariable).map .binding := List.filter_map
  rw [snakeCase, Facts.symbols, List.filter_append, List.map_append, hvariables, List.map_map,
    List.filter_flatMap, List.map_flatMap]
  simp only [← snakeCaseFunction_eq]
  rfl

theorem isMisnamed_iff {s : Symbol} (h : s.name.toList.getLast? ≠ some '\n') :
    s.isMisnamed = true ↔ ¬ s.IsExempt ∧
      (Name.HasOtherChar s.name ∨ s.name ≠ "_" ∧ ¬ Name.StartsWithLetter s.name) := by
  have hcase : (!Name.isSnakeCase s.name) = true ↔
      Name.HasOtherChar s.name ∨ s.name ≠ "_" ∧ ¬ Name.StartsWithLetter s.name := by
    rw [Bool.not_eq_true', ← Bool.not_eq_true, Name.isSnakeCase_iff h, not_and_or, not_not, not_or]
  rw [← hcase]
  cases s with
  | function f => simp [Symbol.isMisnamed, isMisnamedFunction, Symbol.IsExempt, Symbol.name]
  | parameter f p => simp [Symbol.isMisnamed, Symbol.IsExempt, Symbol.name]
  | binding v =>
    simp [Symbol.isMisnamed, isMisnamedVariable, Symbol.IsExempt, Symbol.name, and_assoc]

/-- The rule about snake case tells functions with their parameters, then variables, each that is
misnamed once. What is misnamed has a character in its name that names in snake case have not, or
no letter where such names have one; receivers, special functions and variables, constants and
names of types are let pass, parameters with special names are not. -/
theorem snakeCase_tells_misnamed (facts : Facts) (path : String) :
    snakeCase path facts = (facts.symbols.filter Symbol.isMisnamed).map (Symbol.finding path) ∧
      ∀ s ∈ facts.symbols, s.name.toList.getLast? ≠ some '\n' →
        (s.isMisnamed = true ↔ ¬ s.IsExempt ∧
          (Name.HasOtherChar s.name ∨ s.name ≠ "_" ∧ ¬ Name.StartsWithLetter s.name)) :=
  ⟨snakeCase_eq path facts, fun _ _ h => isMisnamed_iff h⟩

/-- A parameter with a special name, and a variable whose name is two underscores. -/
def oddNames : String := "def f(__A__):\n for __ in f:\n  pass\n"

/-- Both are told; the name of the second has no other character, but no letter either. -/
theorem snakeCase_of_oddNames :
    ∃ tree facts f p v, programOf [] oddNames = .ok tree ∧ Facts.ofTree [] [] tree = .ok facts ∧
      facts.symbols = [.function f, .parameter f p, .binding v] ∧
      p.name = "__A__" ∧ Name.isDunder p.name = true ∧
      v.name = "__" ∧ ¬ Name.HasOtherChar v.name ∧
      snakeCase "a.py" facts =
        [Symbol.finding "a.py" (.parameter f p), Symbol.finding "a.py" (.binding v)] := by
  obtain ⟨tree, facts, htree, hfacts, hseen⟩ := Facts.exists_of_text oddNames
    (fun _ facts =>
      facts.functions.map (fun f => (f.name, f.parameters.map fun p => (p.name, p.isReceiver)))
          = [("f", [("__A__", false)])]
        && facts.bindings.map (fun v => (v.name, v.isTypeAlias, v.isConstant))
          = [("__", false, false)])
    (by decide +kernel)
  simp only [Bool.and_eq_true, decide_eq_true_eq, List.map_eq_singleton_iff, Prod.mk.injEq]
    at hseen
  obtain ⟨⟨f, hfunctions, hfname, p, hparameters, hpname, hreceiver⟩,
    v, hbindings, hvname, halias, hconstant⟩ := hseen
  have hsymbols : facts.symbols = [.function f, .parameter f p, .binding v] := by
    simp [Facts.symbols, FunctionFact.symbols, hfunctions, hparameters, hreceiver, hbindings]
  have hplain : ¬ Name.HasOtherChar v.name := by
    rw [Name.not_hasOtherChar_iff, hvname]
    rfl
  have hbare : ¬ Name.StartsWithLetter v.name := by
    rintro ⟨n, c, rest, hname, hc⟩
    have hmem : c ∈ "__".toList := by rw [← hvname, hname]; simp
    obtain rfl : c = '_' := by simpa using hmem
    cases hc
  obtain ⟨hfound, hmisnamed⟩ := snakeCase_tells_misnamed facts "a.py"
  rw [hsymbols] at hmisnamed hfound
  have hf : (Symbol.function f).isMisnamed = false := by
    rw [Symbol.isMisnamed, isMisnamedFunction, hfname]
    decide
  have hp : (Symbol.parameter f p).isMisnamed = true :=
    (hmisnamed _ (by simp) (by rw [Symbol.name, hpname]; decide)).mpr
      ⟨id, .inl ⟨'A', by rw [Symbol.name, hpname]; decide, by decide⟩⟩
  have hv : (Symbol.binding v).isMisnamed = true :=
    (hmisnamed _ (by simp) (by rw [Symbol.name, hvname]; decide)).mpr
      ⟨by simp [Symbol.IsExempt, hvname, halias, hconstant, Name.isDunder],
        .inr ⟨by rw [Symbol.name, hvname]; decide, hbare⟩⟩
  refine ⟨tree, facts, f, p, v, htree, hfacts, hsymbols, hpname, by rw [hpname]; decide, hvname,
    hplain, ?_⟩
  rw [hfound]
  simp [hf, hp, hv]

end Rules

end SourceConventions
