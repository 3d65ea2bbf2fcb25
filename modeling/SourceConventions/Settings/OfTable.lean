import SourceConventions.Log
import SourceConventions.Settings.Basic

/-!
# Settings from a table of values

A table is checked as a whole before anything runs. Keys that are not known are told about and
left out; a value of the wrong kind is a fault, and of several faults the first one in the order of
the checks counts.
-/

namespace SourceConventions

/-- Why a table is no settings table. -/
inductive SettingsFault where
  | rulesNotTable
  | unknownRules (ids : List String)
  | notStrings (key : String)
  | notCount (key : String)
  | notNumbers (key : String)
  | notBoolean (key : String)
  | ruleNotSetting (rule : String)
  | enabledNotBoolean (rule : String)
  | invalidSeverity (rule : String) (value : Setting)
  /-- A severity cannot even be written down. -/
  | longInteger
  deriving Repr

namespace SettingsFault

def expectedSeverities : String := ", ".intercalate (Severity.all.map Severity.name)

def text : SettingsFault → String
  | .rulesNotTable => "'rules' must be a table"
  | .unknownRules ids => "unknown rule id(s): " ++ ", ".intercalate ids
  | .notStrings key => s!"'{key}' must be a list of strings"
  | .notCount key => s!"'{key}' must be a non-negative integer"
  | .notNumbers key => s!"'{key}' must be a list of numbers"
  | .notBoolean key => s!"'{key}' must be a boolean"
  | .ruleNotSetting rule => s!"rules.\"{rule}\" must be a table, a boolean or a severity"
  | .enabledNotBoolean rule => s!"rules.\"{rule}\".enabled must be a boolean"
  | .invalidSeverity rule value =>
    s!"invalid severity '{value.shown}' for rule '{rule}' (expected one of: {expectedSeverities})"
  | .longInteger => Numeral.tooManyDigitsText

/-- The rule id of findings about rule ids that no rule has. -/
def unknownRuleId : String := "config.unknown-rule"

/-- One finding for each unknown rule id. -/
def findings (source : String) : SettingsFault → List Finding
  | .unknownRules ids => ids.map fun id =>
    { rule := unknownRuleId, severity := .error, path := source, line := 0
      message := s!"Unknown rule id '{id}'", column := none, subject := some id
      demoted := false }
  | _ => []

end SettingsFault

namespace Settings

def knownKeys : List String :=
  ["exclude", "max_attempts_style_threshold", "generic_name_max_statements", "verb_prefixes",
    "extend_verb_prefixes", "generic_names", "required_dirs", "allowed_numbers",
    "typing_public_only", "rules"]

def ruleKeys : List String := ["enabled", "severity"]

/-- The keys of a table that are not among the known ones, in order. -/
def unknownKeys (known : List String) (t : SettingTable) : List String :=
  Sorting.strings (t.keys.filter fun k => !known.contains k)

def strings? : Setting → Option (List String)
  | .list items => items.mapM fun
    | .text s => some s
    | _ => none
  | _ => none

def numbers? : Setting → Option (List Numeral)
  | .list items => items.mapM fun
    | .int n => some (.integer n)
    | .real x => some (.real x)
    | _ => none
  | _ => none

/-- A list of strings; an absent or empty value gives the default. -/
def stringsAt (t : SettingTable) (key : String) (default : List String) :
    Except SettingsFault (List String) :=
  match t.get? key with
  | none | some .null => .ok default
  | some v =>
    match strings? v with
    | some l => .ok l
    | none => .error (.notStrings key)

def countAt (t : SettingTable) (key : String) (default : Nat) : Except SettingsFault Nat :=
  match t.get? key with
  | none => .ok default
  | some (.int n) => if 0 ≤ n then .ok n.toNat else .error (.notCount key)
  | some _ => .error (.notCount key)

def flagAt (t : SettingTable) (key : String) (default : Bool) : Except SettingsFault Bool :=
  match t.get? key with
  | none => .ok default
  | some (.bool b) => .ok b
  | some _ => .error (.notBoolean key)

def numbersAt (t : SettingTable) (key : String) : Except SettingsFault (List Numeral) :=
  match t.get? key with
  | none => .ok []
  | some v =>
    match numbers? v with
    | some l => .ok (Sorting.distinctBy Numeral.same l)
    | none => .error (.notNumbers key)

/-- The entries of the table of rules. -/
def rulesAt (t : SettingTable) : Except SettingsFault SettingTable :=
  match t.get? "rules" with
  | none => .ok []
  | some (.table fields) =>
    match Sorting.strings ((SettingTable.keys fields).filter fun id => (Rule.ofId? id).isNone) with
    | [] => .ok fields
    | ids => .error (.unknownRules ids)
  | some _ => .error .rulesNotTable

/-- What one entry of the table of rules says. -/
structure RuleEntry where
  enabled : Option Bool
  severity : Option Severity
  deriving DecidableEq, Repr

def severityOf (rule : String) (v : Setting) : Except SettingsFault Severity :=
  if v.holdsLongInteger then .error .longInteger
  else
    match Severity.ofText? v.shown with
    | some s => .ok s
    | none => .error (.invalidSeverity rule v)

def ruleEntry (rule : String) : Setting → Except SettingsFault RuleEntry
  | .bool b => .ok ⟨some b, none⟩
  | .text s => do
    let severity ← severityOf rule (.text s)
    return ⟨none, some severity⟩
  | .table fields => do
    let enabled ←
      match SettingTable.get? fields "enabled" with
      | none => pure none
      | some (.bool b) => pure (some b)
      | some _ => .error (.enabledNotBoolean rule)
    let severity ←
      match SettingTable.get? fields "severity" with
      | none => pure none
      | some v => do pure (some (← severityOf rule v))
    return ⟨enabled, severity⟩
  | _ => .error (.ruleNotSetting rule)

def ruleEntries : SettingTable → Except SettingsFault (List (String × RuleEntry))
  | [] => .ok []
  | (rule, v) :: rest => do
    let entry ← ruleEntry rule v
    let others ← ruleEntries rest
    return (rule, entry) :: others

/-- All settings but what the entries of the rules say. -/
def general (t : SettingTable) (source : String) : Except SettingsFault Settings := do
  let _ ← rulesAt t
  let exclude ← stringsAt t "exclude" []
  let retryThreshold ← countAt t "max_attempts_style_threshold" defaultRetryThreshold
  let genericStatements ← countAt t "generic_name_max_statements" defaultGenericStatements
  let verbs ← stringsAt t "verb_prefixes" defaultVerbs
  let moreVerbs ← stringsAt t "extend_verb_prefixes" []
  let genericNames ← stringsAt t "generic_names" defaultGenericNames
  let requiredDirectories ← stringsAt t "required_dirs" defaultRequiredDirectories
  let allowedNumbers ← numbersAt t "allowed_numbers"
  let publicOnly ← flagAt t "typing_public_only" true
  return { source, table := t, exclude, retryThreshold, genericStatements
           verbs := Sorting.distinct (verbs ++ moreVerbs)
           genericNames := Sorting.distinct genericNames
           requiredDirectories, allowedNumbers, publicOnly, enabled := [], severities := [] }

/-- The settings that a table stands for. -/
def ofTable (t : SettingTable) (source : String) : Except SettingsFault Settings := do
  let s ← general t source
  let rules ← rulesAt t
  let entries ← ruleEntries rules
  return { s with
    enabled := entries.filterMap fun e => e.2.enabled.map (e.1, ·)
    severities := entries.filterMap fun e => e.2.severity.map (e.1, ·) }

def warning (message : String) : LogEntry :=
  ⟨.warning, .settings, s!"Configuration Warning: {message} is ignored."⟩

/-- Warnings about unknown keys of the entries, up to the first entry with a fault. -/
def entryWarnings : SettingTable → List LogEntry
  | [] => []
  | (rule, v) :: rest =>
    let own :=
      match v with
      | .table fields => (unknownKeys ruleKeys fields).map fun k =>
        warning s!"unknown key '{k}' for rule '{rule}'"
      | _ => []
    match ruleEntry rule v with
    | .ok _ => own ++ entryWarnings rest
    | .error _ => own

/-- The warnings that reading a table gives, whether or not it ends in a fault. -/
def warnings (t : SettingTable) (source : String) : List LogEntry :=
  (unknownKeys knownKeys t).map (fun k => warning s!"unknown key '{k}' in {source}")
    ++ match general t source, rulesAt t with
      | .ok _, .ok rules => entryWarnings rules
      | _, _ => []

/-- The settings of an empty table. -/
def defaults : Settings where
  source := defaultsSource
  table := []
  exclude := []
  retryThreshold := defaultRetryThreshold
  genericStatements := defaultGenericStatements
  verbs := defaultVerbs
  genericNames := defaultGenericNames
  requiredDirectories := defaultRequiredDirectories
  allowedNumbers := []
  publicOnly := true
  enabled := []
  severities := []

end Settings

end SourceConventions
