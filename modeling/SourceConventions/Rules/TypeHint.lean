import SourceConventions.Rules.Naming

/-!
# The rule about type annotations
-/

namespace SourceConventions.Rules

/-- What a signature lacks, parameters first. -/
def signatureGaps (f : FunctionFact) : List String :=
  f.unannotated.map (fun p => s!"parameter '{p.name}'")
    ++ (if f.returns.isNone then ["return type"] else [])

def functionHint (publicOnly : Bool) (path : String) (f : FunctionFact) : Option Finding :=
  let gaps := signatureGaps f
  if (publicOnly && !f.isPublic) || gaps.isEmpty then none
  else
    some (finding .missingHint path f.pos f.name
      (s!"Missing type hints in '{f.qualifiedName}': " ++ ", ".intercalate gaps))

/-- Whether a variable is one that needs an annotation. -/
def needsHint (publicOnly : Bool) (v : VariableFact) : Bool :=
  (v.scope = .module || v.scope = .classBody) && v.binding = .assign
    && !(Name.isDunder v.name || v.isTypeAlias) && (!publicOnly || v.isPublic)

/-- The keys of the variables that are annotated. -/
def annotatedKeys (vs : List VariableFact) : List (String × String) :=
  (vs.filter (·.binding = .annotated)).map scopeKey

/-- The variables that lack an annotation in all of their scope, each at its first binding. -/
def unannotatedVariables (publicOnly : Bool) (vs : List VariableFact) : List VariableFact :=
  firstOfKey (vs.filter fun v =>
    needsHint publicOnly v && !(annotatedKeys vs).contains (scopeKey v))

def missingHint (publicOnly : Bool) (path : String) (facts : Facts) : List Finding :=
  facts.functions.filterMap (functionHint publicOnly path)
    ++ (unannotatedVariables publicOnly facts.bindings).map fun v =>
      finding .missingHint path v.pos v.name
        s!"Missing type annotation for {v.scope.name} variable '{v.name}'"

end SourceConventions.Rules
