import SourceConventions.Json.Basic
import SourceConventions.Report.Basic

/-!
# Texts of a report
-/

namespace SourceConventions

/-- The fields of a finding that a JSON report shows. -/
def Finding.toJson (f : Finding) : Json := .obj [
  ("file", .str f.path),
  ("line", .int f.line),
  ("column", (f.column.map Json.int).getD .null),
  ("severity", .str f.severity.name),
  ("rule_id", .str f.rule),
  ("message", .str f.message)]

namespace Report

def summaryJson (r : Report) : Json := .obj [
  ("errors", .int r.errors),
  ("warnings", .int r.warnings),
  ("exit_code", .int r.exitCode)]

def toJson (r : Report) : Json := .obj [
  ("violations", .arr (r.findings.map Finding.toJson)),
  ("summary", r.summaryJson)]

/-- The JSON text of a report and a line end. -/
def jsonText (indent : Option Nat) (r : Report) : String := r.toJson.text indent ++ "\n"

def plainLine (f : Finding) : String :=
  s!"{f.path}:{f.line}: [{f.severity.name}] {f.rule}: {f.message}"

def totals (r : Report) : String := s!"{r.errors} errors, {r.warnings} warnings"

/-- A line for each finding and one with the totals. -/
def plainText (r : Report) : String :=
  "\n".intercalate (r.findings.map plainLine ++ [r.totals]) ++ "\n"

end Report

inductive ReportFormat where
  | plain
  | json
  deriving DecidableEq, Repr

/-- A name that no report format has. -/
structure UnknownFormat where
  name : String
  deriving DecidableEq, Repr

namespace ReportFormat

def all : List ReportFormat := [.plain, .json]

def name : ReportFormat → String
  | .plain => "text"
  | .json => "json"

def ofName? (s : String) : Except UnknownFormat ReportFormat :=
  match all.find? (·.name == s) with
  | some f => .ok f
  | none => .error ⟨s⟩

/-- The spaces by which a level of a JSON report is moved in. -/
def jsonIndent : Nat := 2

def render : ReportFormat → Report → String
  | .plain, r => r.plainText
  | .json, r => r.jsonText (some jsonIndent)

end ReportFormat

def UnknownFormat.text (f : UnknownFormat) : String :=
  let names := ", ".intercalate (ReportFormat.all.map ReportFormat.name)
  s!"Unknown output format '{f.name}' (expected one of: {names})"

end SourceConventions
