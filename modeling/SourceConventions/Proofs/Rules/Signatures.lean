import SourceConventions.Proofs.Facts.Definitions
import SourceConventions.Rules.TypeHint

/-!
# Parameters that are told

A parameter is judged unless it is the receiver of a method. What is no method has no receiver, a
function in a block of the body of a class among it, so that the first parameter of such a function
is judged as all others are.
-/

namespace SourceConventions

open Syntax

namespace Definition

instance : DecidablePred IsPublic := fun d =>
  decidable_of_iff _ (FunctionFact.isPublic_eq_true_iff d)

/-- The parameters that lack an annotation, in the order of the signature. -/
def unannotated (d : Definition) : List NamedParameter := d.others.filter (!·.annotated)

/-- What a signature lacks: first what its parameters do, then what is returned. -/
def gaps (d : Definition) : List String :=
  d.unannotated.map (fun p => s!"parameter '{p.name}'")
    ++ if d.hasReturnHint then [] else ["return type"]

def qualifiedName (d : Definition) : String := Syntax.qualifiedName (.stmt d.stmt :: d.above)

end Definition

namespace Rules

/-! ### What is told of a definition -/

/-- One finding for all that a signature lacks. -/
def gapFinding (path : String) (d : Definition) : Finding :=
  finding .missingHint path d.stmt.pos d.name
    (s!"Missing type hints in '{d.qualifiedName}': " ++ ", ".intercalate d.gaps)

/-- A definition has gaps, and its signature is looked at. -/
def HasToldGaps (publicOnly : Bool) (d : Definition) : Prop :=
  (publicOnly = true → d.IsPublic) ∧ d.gaps ≠ []

instance (publicOnly : Bool) : DecidablePred (HasToldGaps publicOnly) := fun _ =>
  inferInstanceAs (Decidable (_ ∧ _))

/-- The findings about the name of a function, then those about the names of its parameters. -/
def nameFindings (path : String) (d : Definition) : List Finding :=
  let kind := if d.isMethod then "Method" else "Function"
  (if !Name.isDunder d.name && !Name.isSnakeCase d.name then
    [finding .snakeCase path d.stmt.pos d.name s!"{kind} name '{d.name}' is not snake_case"]
  else [])
  ++ (d.others.filter fun p => !Name.isSnakeCase p.name).map fun p =>
    finding .snakeCase path p.pos p.name
      s!"Parameter '{p.name}' of '{d.qualifiedName}' is not snake_case"

section Describes

variable {f : FunctionFact} {d : Definition} (h : f.Describes d)
include h

theorem unannotated_of_describes : f.unannotated = d.unannotated.map NamedParameter.fact := by
  rw [FunctionFact.unannotated, h.parameters, NamedParameter.filter_facts]
  · simp [Definition.unannotated, Definition.others, NamedParameter.fact]
  · simp +contextual

theorem signatureGaps_of_describes : signatureGaps f = d.gaps := by
  rw [signatureGaps, Definition.gaps, unannotated_of_describes h, List.map_map, ← h.returns]
  cases f.returns <;> rfl

theorem functionHint_of_describes (publicOnly : Bool) (path : String) :
    functionHint publicOnly path f =
      if HasToldGaps publicOnly d then some (gapFinding path d) else none := by
  have hskipped : ((publicOnly && !f.isPublic) || d.gaps.isEmpty) = true ↔
      ¬ HasToldGaps publicOnly d := by
    rw [HasToldGaps, ← h.isPublic, Bool.or_eq_true, Bool.and_eq_true, List.isEmpty_iff,
      Bool.not_eq_true', Decidable.not_and_iff_not_or_not, Decidable.not_imp_iff_and_not,
      Bool.not_eq_true, Decidable.not_not]
  rw [functionHint, signatureGaps_of_describes h, if_congr hskipped rfl rfl, ite_not, h.pos, h.name,
    h.qualifiedName]
  rfl

theorem snakeCaseFunction_of_describes (path : String) :
    snakeCaseFunction path f = nameFindings path d := by
  have hparameters : f.parameters.filter isMisnamedParameter =
      (d.others.filter fun p => !Name.isSnakeCase p.name).map NamedParameter.fact := by
    rw [h.parameters, NamedParameter.filter_facts]
    · simp [Definition.others, isMisnamedParameter, NamedParameter.fact]
    · simp +contextual [isMisnamedParameter]
  rw [snakeCaseFunction, nameFindings, hparameters, List.map_map, isMisnamedFunction, h.name,
    h.pos, h.isMethod, h.qualifiedName]
  rfl

end Describes

section Definitions

variable {fs : List FunctionFact} {ds : List Definition}
  (h : List.Forall₂ FunctionFact.Describes fs ds)
include h

theorem functionHints_of_describes (publicOnly : Bool) (path : String) :
    fs.filterMap (functionHint publicOnly path) =
      (ds.filter (HasToldGaps publicOnly ·)).map (gapFinding path) := by
  induction h with
  | nil => rfl
  | @cons f d fs ds hd _ ih =>
    rw [List.filterMap_cons, functionHint_of_describes hd, ih, List.filter_cons]
    by_cases htold : HasToldGaps publicOnly d <;> simp [htold]

theorem snakeCaseFunctions_of_describes (path : String) :
    fs.flatMap (snakeCaseFunction path) = ds.flatMap (nameFindings path) := by
  induction h with
  | nil => rfl
  | cons hd _ ih =>
    rw [List.flatMap_cons, List.flatMap_cons, snakeCaseFunction_of_describes hd, ih]

end Definitions

variable {verbs : List String} {suppressions : Suppressions} {tree : Stmt} {facts : Facts}

/-- A function is a method if nothing lies between it and the class around it. The first parameter
by place of a method that is not static is never told; all others are, each once and in the order of
the signature, the missing ones of one function in one finding. -/
theorem parameters_told (hfacts : Facts.ofTree verbs suppressions tree = .ok facts)
    (publicOnly : Bool) (path : String) :
    List.Forall₂ FunctionFact.Describes facts.functions tree.definitions ∧
      (∀ d ∈ tree.definitions, d.isMethod = true ↔ d.InClass ∧ d.blocks = []) ∧
      missingHint publicOnly path facts =
        (tree.definitions.filter (HasToldGaps publicOnly ·)).map (gapFinding path)
          ++ missingHint publicOnly path { facts with functions := [] } ∧
      snakeCase path facts = tree.definitions.flatMap (nameFindings path)
        ++ snakeCase path { facts with functions := [] } := by
  have hdescribes := Facts.functions_of_ofTree hfacts
  refine ⟨hdescribes, fun d => Definition.isMethod_iff, ?_, ?_⟩
  · rw [missingHint, missingHint, functionHints_of_describes hdescribes]
    rfl
  · rw [snakeCase, snakeCase, snakeCaseFunctions_of_describes hdescribes]
    rfl

/-- A class with a method, and with a function in a block of its body. -/
def guardedMethod : String := "class A:\n def f(self):\n  pass\n if f:\n  def g(self):\n   pass\n"

/-- The receiver of the function in the block is told. -/
theorem parameters_in_guardedMethod :
    ∃ tree facts plain guarded, programOf [] guardedMethod = .ok tree ∧
      Facts.ofTree [] [] tree = .ok facts ∧ tree.definitions = [plain, guarded] ∧
      plain.InClass ∧ plain.gaps = ["return type"] ∧ guarded.InClass ∧ guarded.isMethod = false ∧
      guarded.gaps = ["parameter 'self'", "return type"] ∧
      gapFinding "a.py" guarded ∈ missingHint true "a.py" facts := by
  obtain ⟨tree, facts, htree, hfacts, hseen⟩ := Facts.exists_of_text guardedMethod
    (fun tree _ => tree.definitions.length = 2
      && tree.definitions.head?.any (fun plain : Definition =>
        plain.isMethod && plain.gaps == ["return type"])
      && tree.definitions.getLast?.any fun guarded : Definition =>
        guarded.scope?.any (·.node.isClass) && !guarded.blocks.isEmpty
          && guarded.gaps == ["parameter 'self'", "return type"] && decide guarded.IsPublic)
    (by decide +kernel)
  simp only [Bool.and_eq_true, decide_eq_true_eq] at hseen
  obtain ⟨⟨htwo, hfirst⟩, hlast⟩ := hseen
  obtain ⟨plain, guarded, hdefinitions⟩ := List.length_eq_two.mp htwo
  simp only [hdefinitions, List.head?_cons, List.getLast?_cons_cons, List.getLast?_singleton,
    Option.any_some, Bool.and_eq_true, beq_iff_eq, decide_eq_true_eq, Bool.not_eq_true',
    List.isEmpty_eq_false_iff, Option.any_eq_true] at hfirst hlast
  obtain ⟨hmethod, hplain⟩ := hfirst
  obtain ⟨⟨⟨hclass, hblocks⟩, hgaps⟩, hpublic⟩ := hlast
  obtain ⟨-, hmethods, hhints, -⟩ := parameters_told hfacts true "a.py"
  have hguarded : guarded ∈ tree.definitions := by simp [hdefinitions]
  have hno : guarded.isMethod = false := Bool.eq_false_iff.mpr fun h =>
    hblocks ((hmethods guarded hguarded).mp h).2
  refine ⟨tree, facts, plain, guarded, htree, hfacts, hdefinitions,
    ((hmethods plain (by simp [hdefinitions])).mp hmethod).1, hplain, hclass, hno, hgaps, ?_⟩
  rw [hhints]
  refine List.mem_append_left _ (List.mem_map_of_mem (List.mem_filter.mpr ⟨hguarded, ?_⟩))
  exact decide_eq_true ⟨fun _ => hpublic, by rw [hgaps]; exact List.cons_ne_nil _ _⟩

end Rules

end SourceConventions
