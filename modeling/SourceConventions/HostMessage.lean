import SourceConventions.Analysis
import SourceConventions.Files.Source

/-!
# Messages for a host linter

A host linter shows the findings of file rules under message numbers of its own. It hands over the
tree of a file that it has read itself.
-/

namespace SourceConventions

structure HostMessage where
  number : String
  line : Int
  column : Option Int
  text : String
  deriving DecidableEq, Repr

namespace HostMessage

/-- The message of a finding, if its rule has a number. -/
def ofFinding? (f : Finding) : Option HostMessage := do
  let rule ← Rule.ofId? f.rule
  let (number, _) ← rule.hostMessage?
  return ⟨number, f.line, f.column, f.message⟩

/-- The numbers of all rules that have one. -/
def numbers : List String := Rule.all.filterMap fun r => r.hostMessage?.map (·.1)

/-- The messages for a tree; `text` is where its comments are looked for. -/
def ofTree (s : Settings) (path text : String) (tree : Syntax.Stmt) :
    Except AnalysisFault (List HostMessage) := do
  let facts ← Facts.ofTree s.verbs (Suppressions.ofText text) tree
  let findings ← Analysis.judge s path facts
  return findings.filterMap ofFinding?

end HostMessage

/-- Why a host linter has no tree of a file. -/
inductive HostFault where
  | file (fault : FileFault)
  | source (trouble : SourceTrouble)
  | refused (refusal : Syntax.Refusal)

namespace HostFault

def building (text : String) : String × String := ("AstroidBuildingError", text)

def undeclared (text : String) : String × String :=
  ("AstroidSyntaxError", s!"Python 3 encoding specification error or unknown encoding:\n{text}")

/-- What is said of a text that is no program; `name` is that of its module. -/
def refusalParts (name : String) : Syntax.Refusal → String × String
  | .tooDeep =>
    ("RecursionError", "maximum recursion depth exceeded during ast construction")
  | .fault f =>
    let place := if f.line = 0 then "" else s!" ({name}, line {f.line})"
    ("AstroidSyntaxError", s!"Parsing Python code failed:\n{f.complaint.text}{place}")

/-- The kind of a fault and what is said about it. -/
def parts (path : String) : HostFault → String × String
  | .file .nullInPath => (FileFault.nullInPath.kind, FileFault.nullInPath.text)
  | .file f => building s!"Unable to load file {path}:\n{f.report path}"
  | .source (.mishap (.notText name)) => undeclared (Mishap.notText name).message
  | .source (.fault (.declaration path f)) => undeclared (SourceFault.declarationText path f)
  | .source _ => building s!"Wrong or no encoding specified for {path}."
  | .refused r =>
    match Path.moduleName? path with
    | .ok name => refusalParts name r
    | .error _ => refusalParts path r

end HostFault

namespace HostMessage

/-- The messages for a text without its margin, in which comments are looked for as well. -/
def ofText (s : Settings) (path text : String) :
    Except Syntax.Refusal (Except AnalysisFault (List HostMessage)) :=
  (Syntax.programOf [] text).map
    (ofTree s path (String.ofList (Text.withoutMargin text.toList)))

/-- The messages for a file. Its lines keep their margin, and comments are looked for in the text as
it stands in the file. -/
def ofFile (s : Settings) (t : FileTree) (path : String) :
    Except HostFault (Except AnalysisFault (List HostMessage)) := do
  let octets ← (t.octets path).mapError .file
  let text ← (SourceFile.decode path octets).mapError .source
  let shown := SourceFile.namesakeLines t path
  let tree ← (Syntax.programOfChars shown (SourceFile.unified text).toList).mapError .refused
  return ofTree s path text tree

end HostMessage

end SourceConventions
