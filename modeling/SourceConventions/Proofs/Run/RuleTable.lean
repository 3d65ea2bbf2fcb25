import SourceConventions.Proofs.Run.Death
import SourceConventions.Proofs.Run.Layout
import SourceConventions.Report.RuleTable

/-!
# The table of rules and the reports of runs

What a run reports is what the table of rules lets expect: findings of the rules that the table
shows as on, all of them, with the severities that it shows. Only findings about the verbs of private
names are one level less severe.
-/

namespace SourceConventions

namespace RuleTable

/-- The row of a rule that is on and has findings of some severity. -/
def rowOn (r : Rule) (severity : Severity) : List Cell :=
  [plain r.id, plain "yes", plain severity.name, plain (hostCell r), plain r.description]

/-- The rows that start with the name of a rule. -/
def rowsAbout (s : Settings) (id : String) : List (List Cell) :=
  (rows s).filter fun cells => cells.head? = some (plain id)

/-- How severe a finding is if the row of its rule shows a severity. -/
def severityOf (severity : Severity) (f : Finding) : Severity :=
  if f.rule = Rule.verbPrefix.id ∧ f.subject.any Name.isPrivate = true then severity.lowered
  else severity

/-- Every rule has one row. -/
theorem rowsAbout_id (s : Settings) (r : Rule) : rowsAbout s r.id = [row s r] := by
  have hhead (r' : Rule) : (row s r').head? = some (plain r.id) ↔ r' = r := by
    refine ⟨fun h => Rule.id_injective ?_, fun h => h ▸ rfl⟩
    exact (Cell.mk.inj (Option.some.inj h)).1
  have hone : Rule.all.filter (fun r' => (row s r').head? = some (plain r.id)) =
      Rule.all.filter (· = r) :=
    List.filter_congr fun r' _ => decide_eq_decide.mpr (hhead r')
  calc rowsAbout s r.id
    _ = (Rule.all.filter fun r' => (row s r').head? = some (plain r.id)).map (row s) :=
        List.filter_map
    _ = [r].map (row s) := by rw [hone]; cases r <;> rfl

theorem rowsAbout_eq_rowOn_iff {s : Settings} {r : Rule} {severity : Severity} :
    rowsAbout s r.id = [rowOn r severity] ↔
      s.isEnabled r.id = true ∧ RuleTable.severity s r = severity := by
  have hname (a b : Severity) : a.name = b.name ↔ a = b := by
    cases a <;> cases b <;> decide
  rw [rowsAbout_id, row, rowOn, enabledCell]
  cases s.isEnabled r.id <;> simp [plain, hname]

end RuleTable

namespace Finding

/-- A finding of a rule is reported if the rule is on, and as the table shows it. -/
theorem OfRule.settle {r : Rule} {path : String} {f : Finding} (h : f.OfRule r path)
    (s : Settings) :
    Ledger.settle s f =
      if s.isEnabled r.id then
        some (f.withSeverity (RuleTable.severityOf (RuleTable.severity s r) f))
      else none := by
  have hdemoted : f.demoted = true ↔
      f.rule = Rule.verbPrefix.id ∧ f.subject.any Name.isPrivate = true := by
    rw [h.demoted, h.rule, Bool.and_eq_true, decide_eq_true_iff]
    exact and_congr_left fun _ => ⟨congrArg Rule.id, fun hid => Rule.id_injective hid⟩
  rw [Ledger.settle, h.rule, RuleTable.severityOf, RuleTable.severity, h.severity]
  simp only [hdemoted, h.rule]

end Finding

namespace Run

variable {q : Request} {root : String} {files : List String} {logs : List Event}
  {found : DirectorySnapshot} {outcome : String → Outcome}

/-- What the rules have found on a run, given what becomes of its files: what the analysis of a file
comes to, what a rule finds in the facts of a file if its analysis comes back, no rule fails and no
comment turns it off, and what a rule finds about the directories. -/
inductive Yields (q : Request) (root : String) (outcome : String → Outcome) (files : List String)
    (found : DirectorySnapshot) : Finding → Prop where
  | file {file : String} {result : FileResult} {g : Finding} (hfile : file ∈ files)
      (hresult : contribution? outcome file = some result) (hg : g ∈ result.findings) :
      Yields q root outcome files found g
  | facts {file text : String} {facts : Facts} {rule : Rule} {fs all : List Finding} {g : Finding}
      (hfile : file ∈ files) (hback : outcome file = task q root file)
      (htext : SourceFile.read q.tree (SourceFile.pathBelow root file) = .ok text)
      (hfacts : Analysis.HasFacts q.settings (SourceFile.namesakeLines q.tree file) text facts)
      (hall : Analysis.judge q.settings file facts = .ok all)
      (hfs : Analysis.findingsOf q.settings file facts rule = .ok fs) (hg : g ∈ fs)
      (hspared : facts.suppressions.turnsOff g.line g.rule = false) :
      Yields q root outcome files found g
  | directories {rule : Rule} {g : Finding} (hg : g ∈ projectFindings q.settings found rule) :
      Yields q root outcome files found g

/-- That a report agrees with the table of rules: it holds findings only of rules that the table
shows as on, with the severities that it shows, and all that such rules have found. -/
structure AgreesWithTable (s : Settings) (yields : Finding → Prop) (r : Report) : Prop where
  shown : ∀ f ∈ r.findings, ∃ rule severity, f.rule = rule.id ∧
    RuleTable.rowsAbout s f.rule = [RuleTable.rowOn rule severity] ∧
    f.severity = RuleTable.severityOf severity f
  reported : ∀ rule severity, RuleTable.rowsAbout s rule.id = [RuleTable.rowOn rule severity] →
    ∀ g, g.rule = rule.id → yields g →
      g.withSeverity (RuleTable.severityOf severity g) ∈ r.findings

/-- What a rule that is on finds in the facts of a file is part of what the file contributes. -/
theorem mem_contribution_of_facts (hstart : start q = .ok (root, files, logs)) (hq : q.Faithful)
    {file text : String} {facts : Facts} {rule : Rule} {fs all : List Finding} {g : Finding}
    (hfile : file ∈ files)
    (htext : SourceFile.read q.tree (SourceFile.pathBelow root file) = .ok text)
    (hfacts : Analysis.HasFacts q.settings (SourceFile.namesakeLines q.tree file) text facts)
    (hall : Analysis.judge q.settings file facts = .ok all)
    (hon : q.settings.isEnabled rule.id = true)
    (hfs : Analysis.findingsOf q.settings file facts rule = .ok fs) (hg : g ∈ fs)
    (hspared : facts.suppressions.turnsOff g.line g.rule = false) :
    ∃ result, contribution? (task q root) file = some result ∧ g ∈ result.findings := by
  obtain ⟨name, hname⟩ := Path.moduleName?_ok_of_ending (ending_of_start hstart hfile).1
  have hquiet : { q with around := .quiet }.Undisturbed := hq.undisturbed
  refine ⟨_, contribution?_of_text hquiet hname htext, ?_⟩
  obtain ⟨tree, htree, hof⟩ := hfacts
  rw [Analysis.findings_ofText htree hof, Analysis.verdict, hall]
  obtain ⟨fs', hfs', hamong⟩ := Analysis.among_judge hon hall
  rw [hfs] at hfs'
  cases hfs'
  have hkept : g ∈ rule.among all := by
    rw [hamong, Analysis.unsuppressed, List.mem_filter, hspared]
    exact ⟨hg, rfl⟩
  exact (Rule.mem_among.mp hkept).1

section Contributions

variable (hregular : ∀ file r, contribution? outcome file = some r → r.Regular q.settings file)
include hregular

theorem shown_of_mem_ledgerOf {f : Finding}
    (hf : f ∈ (ledgerOf q.settings found (files.filterMap (contribution? outcome))).findings) :
    ∃ rule severity, f.rule = rule.id ∧
      RuleTable.rowsAbout q.settings f.rule = [RuleTable.rowOn rule severity] ∧
      f.severity = RuleTable.severityOf severity f := by
  obtain ⟨g, ⟨rule, path, hg⟩, hsettle⟩ :=
    exists_settled_of_mem_ledgerOf (ofRules_of_regular hregular files) hf
  rw [hg.settle] at hsettle
  split at hsettle
  case isFalse => cases hsettle
  case isTrue hon =>
    obtain rfl := Option.some.inj hsettle
    refine ⟨rule, RuleTable.severity q.settings rule, hg.rule, ?_, rfl⟩
    rw [show (g.withSeverity _).rule = rule.id from hg.rule]
    exact RuleTable.rowsAbout_eq_rowOn_iff.mpr ⟨hon, rfl⟩

theorem mem_ledgerOf_of_yields (hstart : start q = .ok (root, files, logs)) (hq : q.Faithful)
    {rule : Rule} (hon : q.settings.isEnabled rule.id = true) {g : Finding} (hg : g.rule = rule.id)
    (h : Yields q root outcome files found g) :
    g.withSeverity (RuleTable.severityOf (RuleTable.severity q.settings rule) g) ∈
      (ledgerOf q.settings found (files.filterMap (contribution? outcome))).findings := by
  have hsettle {rule' : Rule} {path : String} (h : g.OfRule rule' path) :
      Ledger.settle q.settings g =
        some (g.withSeverity (RuleTable.severityOf (RuleTable.severity q.settings rule) g)) := by
    obtain rfl : rule' = rule := Rule.id_injective (h.rule.symm.trans hg)
    rw [h.settle, if_pos hon]
  rw [mem_ledgerOf_contributions hstart hregular]
  cases h with
  | @file file result _ hfile hresult hmem =>
    obtain ⟨rule', path, hof⟩ := (hregular file result hresult).ofSomeRule hmem
    exact .inl ⟨file, hfile, result, hresult, g, hmem, hsettle hof⟩
  | @facts file text facts rule' fs all _ hfile hback htext hfacts hall hfs hmem hspared =>
    have hof := Analysis.findingsOf_ofRule hfs hmem
    obtain rfl : rule' = rule := Rule.id_injective (hof.rule.symm.trans hg)
    obtain ⟨result, hresult, hin⟩ :=
      mem_contribution_of_facts hstart hq hfile htext hfacts hall hon hfs hmem hspared
    have hresult : contribution? outcome file = some result := by
      rw [← hresult, contribution?, hback, contribution?]
    exact .inl ⟨file, hfile, result, hresult, g, hin, hsettle hof⟩
  | @directories rule' _ hmem =>
    cases rule' with
    | requiredDirectory =>
      have hof := Rules.requiredDirectory_ofRule hmem
      obtain rfl : .requiredDirectory = rule := Rule.id_injective (hof.rule.symm.trans hg)
      exact .inr ⟨.requiredDirectory, mem_projectRules hon, g, hmem, hsettle hof⟩
    | _ => cases hmem

/-- A report that is made of regular contributions agrees with the table. -/
theorem agreesWithTable_of_regular (hstart : start q = .ok (root, files, logs))
    (hq : q.Faithful) (found : DirectorySnapshot) :
    AgreesWithTable q.settings (Yields q root outcome files found)
      (ledgerOf q.settings found (files.filterMap (contribution? outcome))).report where
  shown f hf := shown_of_mem_ledgerOf hregular (Ledger.mem_report.mp hf)
  reported rule severity hrow g hg hyields := by
    obtain ⟨hon, rfl⟩ := RuleTable.rowsAbout_eq_rowOn_iff.mp hrow
    exact Ledger.mem_report.mpr (mem_ledgerOf_of_yields hregular hstart hq hon hg hyields)

end Contributions

/-- Every report of a run agrees with the table of rules, whatever goes on around the run. -/
theorem report_agreesWithTable (hq : q.Faithful) {r : Report} (hr : (run q).report = .ok r) :
    ∃ root all found logs logs' logs'',
      start q = .ok (root, all.filter (!q.settings.excludes ·), logs) ∧
      q.tree.sources root defaultExcludedNames = .ok (all, logs') ∧
      q.tree.snapshot root defaultExcludedNames = .ok (found, logs'') ∧
      AgreesWithTable q.settings
        (Yields q root (task q root) (all.filter (!q.settings.excludes ·)) found) r := by
  cases hstart : start q with
  | error f => rw [run, hstart] at hr; cases hr
  | ok answer =>
    obtain ⟨root, files, logs⟩ := answer
    obtain ⟨all, logs', hsources, rfl⟩ := sources_of_start hstart
    obtain ⟨found, logs'', hfound⟩ := snapshot_of_start hstart
    have hregular (file : String) (result : FileResult)
        (h : contribution? (task q root) file = some result) : result.Regular q.settings file :=
      contribution?_regular hq.undisturbed h
    refine ⟨root, all, found, logs, logs', logs'', rfl, hsources, hfound, ?_⟩
    rw [eq_reportOf hstart hq hfound hr]
    exact agreesWithTable_of_regular hregular hstart hq found

/-- A run over a file that holds a private function `_x`. Functions are to be called `get` and
something, and it is an error if they are not. -/
def misnamedFile : Request :=
  { twoFiles with
    tree := projectOf [("a.py", .file [0x64, 0x65, 0x66, 0x20, 0x5f, 0x78, 0x28, 0x29, 0x3a, 0x0a, 0x20,
      0x70, 0x61, 0x73, 0x73, 0x0a])]
    settings := ⟨defaultsSource, [], [], 2, 3, ["get"], [], [], [], true, [],
      [(Rule.verbPrefix.id, .error)]⟩ }

theorem start_misnamedFile : start misnamedFile = .ok ("/p", ["a.py"], []) :=
  start_projectOf rfl rfl ["a.py"] (by decide)

/-- The table shows errors, and the name of the private function is a warning. -/
theorem report_of_misnamedFile :
    ∃ r, (run misnamedFile).report = .ok r ∧
      RuleTable.rowsAbout misnamedFile.settings Rule.verbPrefix.id =
        [RuleTable.rowOn .verbPrefix .error] ∧
      ∃ f ∈ r.findings, f.rule = Rule.verbPrefix.id ∧ f.severity = .warning := by
  have hq : misnamedFile.Undisturbed := ⟨rfl, fun _ _ => rfl⟩
  have hread : SourceFile.read misnamedFile.tree (SourceFile.pathBelow "/p" "a.py") =
      .ok "def _x():\n pass\n" :=
    read_projectOf (by decide) (by decide) rfl rfl
  have hname : Path.moduleName? "a.py" = .ok "a" := by decide
  have hrow : RuleTable.rowsAbout misnamedFile.settings Rule.verbPrefix.id =
      [RuleTable.rowOn .verbPrefix .error] :=
    RuleTable.rowsAbout_eq_rowOn_iff.mpr ⟨rfl, rfl⟩
  obtain ⟨r, hr⟩ := exists_report_of_read start_misnamedFile hq (by simpa using ⟨_, hread⟩)
  obtain ⟨root, all, found, logs, -, -, hstart, -, -, hagrees⟩ := report_agreesWithTable hq.fate hr
  obtain ⟨rfl, hfiles, -⟩ : root = "/p" ∧ all.filter (!misnamedFile.settings.excludes ·) = ["a.py"] ∧
      logs = [] := by
    simpa using hstart.symm.trans start_misnamedFile
  have hfound : (Analysis.ofText misnamedFile.settings "a.py" [] "def _x():\n pass\n").1.findings.any
      (fun g => g.rule == Rule.verbPrefix.id && RuleTable.severityOf .error g == .warning) =
        true := by
    decide +kernel
  obtain ⟨g, hg, hshape⟩ := List.any_eq_true.mp hfound
  rw [Bool.and_eq_true, beq_iff_eq, beq_iff_eq] at hshape
  have hcontribution := contribution?_of_text hq hname hread
  have hown : SourceFile.namesakeLines misnamedFile.tree "a.py" = [] :=
    namesakeLines_projectOf hname (by decide) (by decide) rfl
  rw [hown] at hcontribution
  refine ⟨r, hr, hrow, _, hagrees.reported .verbPrefix .error hrow g hshape.1 ?_, hshape.1, hshape.2⟩
  exact .file (hfiles ▸ List.mem_singleton_self "a.py") hcontribution hg

/-- The report of a run that loses a worker agrees with the table as well. -/
theorem report_agreesWithTable_of_death {d : Death} (hstart : start q = .ok (root, files, logs))
    (hq : q.Undisturbed) (hworkers : 1 < workerCount q.processors q.jobs files.length)
    (hall : files.length ≤ d.handedOut) :
    ∃ found r, (runUntil d q).report = .ok r ∧
      AgreesWithTable q.settings (Yields q root (d.outcome (task q root)) files found) r := by
  obtain ⟨found, logs', hfound⟩ := snapshot_of_start hstart
  exact ⟨found, _, report_of_death hstart hq hworkers hall hfound,
    agreesWithTable_of_regular (contribution?_outcome_regular d hq root) hstart hq.fate found⟩

end Run

end SourceConventions
