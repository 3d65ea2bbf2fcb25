import SourceConventions.Facts.OfTree
import SourceConventions.Facts.Suppression
import SourceConventions.FileResult
import SourceConventions.Log
import SourceConventions.Path.Basic
import SourceConventions.Rules.MagicNumber
import SourceConventions.Rules.TypeHint
import SourceConventions.Settings.Basic
import SourceConventions.Syntax.Program

/-!
# Analysis of one text

A text is read, its facts are judged by the rules that are on, and what comments turn off is left
out. A text that cannot be read or judged has one finding that says so.
-/

namespace SourceConventions

open Syntax

namespace Analysis

/-- What is said in the log about a text that is refused. -/
def refusalLog (path : String) : Refusal → LogEntry
  | .fault f => ⟨.debug, .parsing, s!"Syntax error in {path}:{f.line}: {f.complaint.text}"⟩
  | .tooDeep => ⟨.warning, .parsing, s!"Cannot build tree for {path}: RecursionError"⟩

def refusalFault (path : String) (r : Refusal) : ParseFault := ⟨path, r.line, r.reason⟩

/-- The findings of one rule. -/
def findingsOf (s : Settings) (path : String) (facts : Facts) :
    Rule → Except AnalysisFault (List Finding)
  | .snakeCase => .ok (Rules.snakeCase path facts)
  | .verbPrefix => .ok (Rules.verbPrefix path facts)
  | .genericName => .ok (Rules.genericName s.genericNames s.genericStatements path facts)
  | .magicNumber => Rules.magicNumber s.allowedNumbers (.integer s.retryThreshold) path facts
  | .missingHint => .ok (Rules.missingHint s.publicOnly path facts)
  | .requiredDirectory | .parseError => .ok []

/-- Leaves out what comments turn off. -/
def unsuppressed (s : Suppressions) (fs : List Finding) : List Finding :=
  fs.filter fun f => !s.turnsOff f.line f.rule

/-- The findings of the rules that are on, rule by rule. -/
def judge (s : Settings) (path : String) (facts : Facts) : Except AnalysisFault (List Finding) := do
  let findings ← s.fileRules.mapM (findingsOf s path facts)
  return unsuppressed facts.suppressions findings.flatten

/-- The fault of a file whose analysis ends in something that is not foreseen. -/
def internalFault (path what : String) : ParseFault := ⟨path, 0, s!"internal error: {what}"⟩

def parseLog (f : ParseFault) : LogEntry :=
  ⟨.debug, .analysis, s!"Parse failure in {f.path}: {f.reason}"⟩

/-- The result for a file that cannot be read or judged. -/
def failure (f : ParseFault) (logs : List LogEntry) : FileResult × List LogEntry :=
  (f.result, logs ++ [parseLog f])

/-- What is said in the log about comments that cannot be told. -/
def commentLogs (text : String) : List LogEntry :=
  match Suppressions.read text with
  | .ok _ => []
  | .error f => [⟨.debug, .comments, s!"Suppression scan skipped: {f.text}"⟩]

def internalLog (path what : String) : LogEntry :=
  ⟨.warning, .analysis, s!"Analysis failed for {path}: {what}"⟩

/-- Judges a tree, and tells what is written to the log. -/
def ofTree (s : Settings) (path text : String) (tree : Stmt) : FileResult × List LogEntry :=
  match Facts.ofTree s.verbs (Suppressions.ofText text) tree with
  | .error f => failure (internalFault path f.text) [internalLog path f.text]
  | .ok facts =>
    match judge s path facts with
    | .error f => failure (internalFault path f.text) (commentLogs text ++ [internalLog path f.text])
    | .ok findings => (⟨path, findings, true⟩, commentLogs text)

/-- Analyses a text under settings, and tells what is written to the log. `stoodFor` are the lines of
a file that goes by the name of the module. -/
def ofText (s : Settings) (path : String) (stoodFor : List (List Char)) (text : String) :
    FileResult × List LogEntry :=
  match programOf stoodFor text with
  | .error r => failure (refusalFault path r) [refusalLog path r]
  | .ok tree => ofTree s path text tree

/-- Analyses a text whose path has to have a name. -/
def named? (s : Settings) (path : String) (stoodFor : List (List Char)) (text : String) :
    Except NamelessPath (FileResult × List LogEntry) := do
  let _ ← Path.moduleName? path
  return ofText s path stoodFor text

end Analysis

end SourceConventions
