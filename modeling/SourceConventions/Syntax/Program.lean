import SourceConventions.Syntax.Grammar.Statement
import SourceConventions.Syntax.Grammar.TextLiteral
import SourceConventions.Syntax.Lexing
import SourceConventions.Text.Blank
import SourceConventions.Text.Margin

/-!
# Texts as programs

A text is read in two attempts. The first one accepts or refuses it; the second one looks for what
is wrong with a text that has been refused. Faults that the tokens themselves have go before what
the second attempt finds.
-/

namespace SourceConventions.Syntax

namespace Grammar

/-- What each nonterminal stands for, given the others. -/
def rules (g : Grammar) : Grammar
  | .block => indentedBlock g
  | .simpleStatement => simpleStatement g
  | .elifClause => elifClause g
  | .expression => expression g
  | .starExpression => starExpression g
  | .disjunction => disjunction g
  | .conjunction => conjunction g
  | .inversion => inversion g
  | .bitOr => bitOr g
  | .bitXor => bitXor g
  | .bitAnd => bitAnd g
  | .shift => shift g
  | .sum => sum g
  | .term => term g
  | .factor => factor g
  | .awaited => awaited g
  | .primary => primary g
  | .texts => texts
  | .arguments => arguments g
  | .starTarget => starTarget g
  | .starAtomTarget => starAtomTarget g
  | .targetPrimary => targetPrimary g
  | .singleTarget => singleTarget g
  | .deletionTarget => deletionTarget g
  | .annotatedGroup => annotatedGroup g (list g) (tuple g)
  | .walrusMisuse => walrusMisuse g
  | .closedPattern => closedPattern g
  | .starPattern => starPattern

/-- The grammar in which nonterminals may be nested to a depth. -/
def nested : Nat → Grammar
  | 0 => fun _ => failure
  | n + 1 => fun r => Reading.remembering r (rules (nested n) r)

/-- Nonterminals that one token may open at the most. -/
def depthPerToken : Nat := 20

/-- The grammar for a text of so many tokens. -/
def ofSize (size : Nat) : Grammar := nested (depthPerToken * (size + 2))

end Grammar

namespace Surroundings

variable {α : Type}

def attempt (s : Surroundings) (diagnosing : Bool) (reach : Nat) (p : Reading α) : Outcome α :=
  p { s with diagnosing } ⟨0, reach, Array.replicate (s.tokens.size + 1) []⟩

/-- A fault of the tokens that have not been fetched, which goes before a complaint about those
that have been. -/
def laterFault? (s : Surroundings) (reach : Nat) : Option Fault :=
  match s.stop with
  | none => none
  | some stop =>
    if stop.complaint.endsQuietly then
      match stop.unclosed with
      | some (c, line) =>
        if line < s.lineBefore reach then
          some (s.showAt stop.stretch ⟨s.placed (.neverClosed c), line, none⟩)
        else none
      | none => none
    else some (s.showStop stop)

/-- What is said of a text that is refused without anything special being wrong with it. -/
def plainFault (s : Surroundings) (firstReach reach : Nat) : Fault :=
  let fault (complaint : Complaint) (line : Nat) : Fault :=
    s.showBehind reach ⟨s.placed complaint, line, none⟩
  match s.tokens[firstReach - 1]? with
  | none => fault .invalid 0
  | some t =>
    match t.kind with
    | .indent => fault .unexpectedIndent (s.lineBefore reach)
    | .dedent => fault .unexpectedDedent (s.lineBefore reach)
    | _ => (s.laterFault? reach).getD (fault .invalid t.pos.line)

/-- What a reading of all tokens finds, or why it finds nothing. -/
def read (s : Surroundings) (p : Reading α) : Except Fault α :=
  let refused (fault : Fault) (ofTokens : Bool) (reach : Nat) : Except Fault α :=
    .error (if ofTokens then fault else (s.laterFault? reach).getD fault)
  match s.attempt false 0 p with
  | .found a _ => .ok a
  | .wrong fault ofTokens reach => refused fault ofTokens reach
  | .absent first =>
    match s.attempt true first.reach p with
    | .wrong fault ofTokens reach => refused fault ofTokens reach
    | .found _ c => .error (s.plainFault first.reach c.reach)
    | .absent c => .error (s.plainFault first.reach c.reach)

end Surroundings

/-- The expression in a placeholder, read as if it stood in parentheses, the first of them at the
position of the brace. -/
def readPlaceholder : Nat → Position → List Char → Except Fault Expr
  | 0, pos, _ => .error ⟨.invalid, pos.line, some []⟩
  | n + 1, pos, cs =>
    let cs := '(' :: cs ++ [')']
    let tokens := Tokens.ofChars false pos cs
    let s : Surroundings := {
      tokens := tokens.items.toArray, stop := tokens.stop, diagnosing := false
      inPlaceholder := true, placeholder := readPlaceholder n
      lines := Text.lines cs, firstLine := pos.line, stoodFor := [] }
    s.read (Grammar.starExpressions (Grammar.ofSize tokens.items.length))

/-- Why a text is no program. -/
inductive Refusal where
  | fault (f : Fault)
  /-- The tree would be too deep. -/
  | tooDeep
  deriving DecidableEq, Repr

namespace Refusal

def line : Refusal → Nat
  | .fault f => f.line
  | .tooDeep => 0

def reason : Refusal → String
  | .fault f => s!"syntax error: {f.complaint.text}"
  | .tooDeep =>
    "cannot parse: RecursionError: maximum recursion depth exceeded during ast construction"

end Refusal

/-- A text that stands at the margin and whose lines end in line feeds. With a fault, a line of the
text that stands for it is shown, if there is one. -/
def readChars (typeComments : Bool) (stoodFor : List (List Char)) (cs : List Char) :
    Except Fault Stmt :=
  let tokens := Tokens.ofChars typeComments ⟨1, 0⟩ cs
  let s : Surroundings := {
    tokens := tokens.items.toArray, stop := tokens.stop, diagnosing := false
    inPlaceholder := false, placeholder := readPlaceholder cs.length
    lines := Text.lines cs, firstLine := 1, stoodFor }
  s.read (Grammar.moduleText (Grammar.ofSize tokens.items.length))

/-- Whether a text has what looks like a type comment, with at least one blank before it. -/
def mentionsType : List Char → Bool
  | [] => false
  | c :: rest =>
    (c == '#'
      && let blanks := rest.takeWhile Text.isBlank
        !blanks.isEmpty && ['t', 'y', 'p', 'e', ':'].isPrefixOf (rest.drop blanks.length))
    || mentionsType rest

/-- Trees may not be deeper than this. -/
def maxDepth : Nat := 3000

/-- The tree of a text that stands at the margin. Type comments do not count if what is shown with a
fault has one. -/
def programOfChars (stoodFor : List (List Char)) (cs : List Char) : Except Refusal Stmt :=
  if cs.contains '\x00' then .error (.fault ⟨.nullCharacter, 0, none⟩)
  else
    let cs := Text.unifyLineEnds cs ++ ['\n']
    let result : Except Fault Stmt :=
      match readChars true stoodFor cs with
      | .ok s => .ok s
      | .error fault =>
        if mentionsType (fault.shown.getD []) then readChars false [] cs else .error fault
    match result with
    | .ok s => if maxDepth < s.depth then .error .tooDeep else .ok s
    | .error fault => .error (.fault fault)

/-- The tree of a text, whose margin does not count. Lines of another text may be shown in place of
its own. -/
def programOf (stoodFor : List (List Char)) (text : String) : Except Refusal Stmt :=
  programOfChars stoodFor (Text.withoutMargin text.toList)

end SourceConventions.Syntax
