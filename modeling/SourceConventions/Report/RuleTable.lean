import SourceConventions.Settings.Basic
import SourceConventions.Text.Table

/-!
# The table of rules

The table tells of every rule whether it is on and how severe its findings are.
-/

namespace SourceConventions

namespace RuleTable

def title : String := "Convention Rules"

structure Cell where
  text : String
  faint : Bool
  deriving DecidableEq, Repr

def plain (s : String) : Cell := ⟨s, false⟩

/-- The text of a cell with the marks that make it faint. -/
def Cell.marked (c : Cell) : String := if c.faint then s!"[dim]{c.text}[/dim]" else c.text

def enabledCell (s : Settings) (r : Rule) : Cell :=
  if s.isEnabled r.id then plain "yes" else ⟨"no", true⟩

/-- The severity of the findings of a rule that are not demoted. -/
def severity (s : Settings) (r : Rule) : Severity := (s.severity? r.id).getD r.defaultSeverity

def hostCell (r : Rule) : String :=
  match r.hostMessage? with
  | some (number, name) => s!"{number} {name}"
  | none => "-"

def header : List String := ["Rule", "Enabled", "Severity", "Pylint", "Description"]

def row (s : Settings) (r : Rule) : List Cell :=
  [plain r.id, enabledCell s r, plain (severity s r).name, plain (hostCell r), plain r.description]

def rows (s : Settings) : List (List Cell) := Rule.all.map (row s)

/-- The heads of the columns with the cells below them. -/
def columns (s : Settings) : List (String × List Cell) :=
  (List.range header.length).map fun i =>
    (header.getD i "", (rows s).map fun cells => cells.getD i (plain ""))

def table (s : Settings) : Text.Table := ⟨title, header, (rows s).map (List.map Cell.text)⟩

def text (s : Settings) : String := (table s).text

end RuleTable

end SourceConventions
