import SourceConventions.Rules.Naming
import SourceConventions.Text.Casing

/-!
# The rule about numbers without a name
-/

namespace SourceConventions.Rules

/-- Numbers that never need a name. -/
def canonicalNumbers : List Numeral := [.integer 0, .integer 1, .integer (-1)]

/-- What the name of a retry counter has in it. -/
def retryFragments : List String := ["attempt", "retry", "retries", "tries"]

/-- How a context is called, if numbers in it need a name. -/
def contextLabel? : LiteralContext → Option String
  | .comparison => some "a comparison"
  | .arithmetic => some "an arithmetic expression"
  | .default => some "a default parameter value"
  | .other => none

def isRetryName (name : String) : Bool :=
  retryFragments.any fun f => Text.occursIn f.toList (Text.lowered name).toList

def isRetryComparison (l : LiteralFact) : Bool :=
  l.context = .comparison && l.compared.any isRetryName

/-- Whether a literal is a number that needs a name. -/
def isMagic (allowed : List Numeral) (threshold : Numeral) (l : LiteralFact) : Bool :=
  match l.value with
  | .text _ => false
  | .number n =>
    !l.isNamedConstant && (contextLabel? l.context).isSome
      && !(canonicalNumbers ++ allowed).any n.same
      && (!isRetryComparison l || n.abs.atLeast threshold)

def magicMessage (l : LiteralFact) (shown : String) : String :=
  let name := l.compared.getD ""
  if isRetryComparison l then
    s!"Magic number {shown} compared with retry counter '{name}' in {l.enclosing}; "
      ++ "bind it to a constant such as MAX_ATTEMPTS"
  else
    let label := (contextLabel? l.context).getD ""
    let place := if name.isEmpty then label else s!"{label} with '{name}'"
    s!"Magic number {shown} used in {place} in {l.enclosing}; bind it to a named constant"

/-- The finding about a number that needs a name; the number has to be shown in it. -/
def magicFinding (path : String) (l : LiteralFact) : Except AnalysisFault Finding :=
  let shown? := match l.value with
    | .number n => n.text?
    | .text s => some s
  match shown? with
  | some shown =>
    .ok (finding .magicNumber path l.pos l.enclosing (magicMessage l shown))
  | none => .error .longInteger

def magicNumber (allowed : List Numeral) (threshold : Numeral) (path : String) (facts : Facts) :
    Except AnalysisFault (List Finding) :=
  (facts.literals.filter (isMagic allowed threshold)).mapM (magicFinding path)

end SourceConventions.Rules
