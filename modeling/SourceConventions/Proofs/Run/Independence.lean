import SourceConventions.Proofs.Analysis.Independence
import SourceConventions.Proofs.Run.Isolation

/-!
# What one rule takes from another in a run

The findings of a rule in the report of a run are those of its files, so that they depend on which
other rules are on only where the findings of a file do.
-/

namespace SourceConventions

namespace Settings.AlikeButFileRules

variable {s s' : Settings}

theorem excludes_eq (h : s.AlikeButFileRules s') : s'.excludes = s.excludes := by
  funext path
  rw [Settings.excludes, Settings.excludes, h.exclude]

theorem projectRules_eq (h : s.AlikeButFileRules s') : s'.projectRules = s.projectRules := by
  refine List.filter_congr fun rule hrule => h.enabled rule ?_
  simp only [Rule.projectRules, List.mem_filter, decide_eq_true_eq] at hrule
  rw [hrule.2]
  exact nofun

theorem settle_eq (h : s.AlikeButFileRules s') {r : Rule} (hr : s.isEnabled r.id = true)
    (hr' : s'.isEnabled r.id = true) {f : Finding} (hf : f.rule = r.id) :
    Ledger.settle s' f = Ledger.settle s f := by
  have hseverity : s'.severity? f.rule = s.severity? f.rule := by
    rw [Settings.severity?, Settings.severity?, h.severities]
  rw [Ledger.settle, Ledger.settle, hseverity, hf, hr, hr']

end Settings.AlikeButFileRules

theorem Rule.mem_among {r : Rule} {fs : List Finding} {f : Finding} :
    f ∈ r.among fs ↔ f ∈ fs ∧ f.rule = r.id := by
  rw [among, List.mem_filter, beq_iff_eq]

theorem Ledger.settle_some {s : Settings} {r : Rule} (hr : s.isEnabled r.id = true) {f : Finding}
    (hf : f.rule = r.id) : ∃ g, settle s f = some g := by
  rw [settle, hf, hr]
  exact ⟨_, rfl⟩

theorem Ledger.settle_keeps {s : Settings} {f g : Finding} (h : settle s f = some g) :
    g.rule = f.rule ∧ g.path = f.path := by
  rw [settle] at h
  split at h
  · rw [← Option.some.inj h]
    exact ⟨rfl, rfl⟩
  · cases h

/-- A finding that is settled to one of a rule is one of that rule. -/
theorem Ledger.exists_settled_iff {s : Settings} {r : Rule} {fs : List Finding} {f : Finding}
    (hf : f.rule = r.id) :
    (∃ g ∈ fs, settle s g = some f) ↔ ∃ g ∈ r.among fs, settle s g = some f := by
  constructor
  · rintro ⟨g, hg, hsettle⟩
    exact ⟨g, Rule.mem_among.mpr ⟨hg, (settle_keeps hsettle).1.symm.trans hf⟩, hsettle⟩
  · rintro ⟨g, hg, hsettle⟩
    exact ⟨g, (Rule.mem_among.mp hg).1, hsettle⟩

/-- The same findings of a rule are settled alike by two settings that have it on. -/
theorem Ledger.exists_settled_congr {s s' : Settings} (h : s.AlikeButFileRules s') {r : Rule}
    (hr : s.isEnabled r.id = true) (hr' : s'.isEnabled r.id = true) {fs fs' : List Finding}
    (hsame : r.among fs = r.among fs') {f : Finding} (hf : f.rule = r.id) :
    (∃ g ∈ fs, settle s g = some f) ↔ ∃ g ∈ fs', settle s' g = some f := by
  rw [exists_settled_iff hf, hsame]
  refine Iff.trans (exists_congr fun g => and_congr_right fun hg => ?_) (exists_settled_iff hf).symm
  rw [h.settle_eq hr hr' (Rule.mem_among.mp hg).2]

/-- The findings of one rule in a report are the same if those in the ledgers are. -/
theorem Ledger.among_report_eq {l l' : Ledger} (hl : l.findings.Nodup) (hl' : l'.findings.Nodup)
    {r : Rule} (hmem : ∀ f, f.rule = r.id → (f ∈ l.findings ↔ f ∈ l'.findings))
    (hkey : ∀ f ∈ l.findings, ∀ g ∈ l.findings, f.key = g.key → f = g) :
    r.among l.report.findings = r.among l'.report.findings :=
  filter_report_eq hl hl' (fun f hf => hmem f (beq_iff_eq.mp hf)) hkey

namespace FileResult.Regular

theorem mem_rule {s : Settings} {path : String} {r : FileResult} (h : r.Regular s path) {f : Finding}
    (hf : f ∈ r.findings) : f.path = path ∧ ∃ rule : Rule, rule.scope ≠ .project ∧ f.rule = rule.id := by
  cases h with
  | judged h =>
    obtain ⟨rule, hon, hrule⟩ := h f hf
    refine ⟨hrule.path, rule, ?_, hrule.rule⟩
    rw [(Analysis.mem_fileRules.mp hon).1]
    exact nofun
  | faulty h =>
    rw [List.mem_singleton.mp hf]
    exact ⟨h, .parseError, nofun, rfl⟩

end FileResult.Regular

namespace Run

variable {q : Request} {root : String} {files : List String} {logs : List Event} {s' : Settings}
  {r : Rule}

theorem start_congr (h : q.settings.AlikeButFileRules s') :
    start { q with settings := s' } = start q := by
  have hsources (root : String) : sources { q with settings := s' } root = sources q root := by
    rw [sources, sources, h.excludes_eq]
  rw [start, start]
  simp only [hsources]
  rfl

/-- What keeps the findings of a rule on a file the same under other settings. -/
def FileUndisturbed (q : Request) (s' : Settings) (r : Rule) (root file : String) : Prop :=
  ∀ text facts, SourceFile.read q.tree (SourceFile.pathBelow root file) = .ok text →
    Analysis.HasFacts q.settings (SourceFile.namesakeLines q.tree file) text facts →
    Analysis.Undisturbed q.settings s' r file facts

theorem contribution?_of_text (hq : q.Undisturbed) {file name text : String}
    (hname : Path.moduleName? file = .ok name)
    (htext : SourceFile.read q.tree (SourceFile.pathBelow root file) = .ok text) :
    contribution? (task q root) file =
      some (Analysis.ofText q.settings file (SourceFile.namesakeLines q.tree file) text).1 := by
  have htask := (task_of_undisturbed hq root file).trans (analyze_of_text htext)
  rw [hname] at htask
  exact contribution?_of_result htask

/-- What comes in a pool of a file that cannot be read. -/
def unread (file : String) : SourceTrouble → FileResult
  | .fault f => ParseFault.result ⟨file, 0, f.text⟩
  | .mishap m => (Analysis.internalFault file m.text).result

theorem contribution?_of_trouble (hq : q.Undisturbed) {file : String} {e : SourceTrouble}
    (he : SourceFile.read q.tree (SourceFile.pathBelow root file) = .error e) :
    contribution? (task q root) file = some (unread file e) := by
  have htask := task_of_undisturbed hq root file
  cases e with
  | fault f => exact contribution?_of_result (htask.trans (analyze_of_fault he))
  | mishap m => exact contribution?_of_mishap (htask.trans (analyze_of_mishap he))

/-- What a file contributes of one rule is the same under two settings that have the rule on, or it
contributes some under one of them and none under the other. -/
theorem among_contribution (hstart : start q = .ok (root, files, logs)) (hq : q.Undisturbed)
    (h : q.settings.AlikeButFileRules s') (hr : q.settings.isEnabled r.id = true)
    (hr' : s'.isEnabled r.id = true) {file : String} (hfile : file ∈ files) :
    ∃ a b, contribution? (task q root) file = some a ∧
      contribution? (task { q with settings := s' } root) file = some b ∧
      (FileUndisturbed q s' r root file ∧ r.among a.findings = r.among b.findings ∨
        ¬ FileUndisturbed q s' r root file ∧
          (r.among a.findings = [] ∧ r.among b.findings ≠ [] ∨
            r.among a.findings ≠ [] ∧ r.among b.findings = [])) := by
  obtain ⟨name, hname⟩ := Path.moduleName?_ok_of_ending (ending_of_start hstart hfile).1
  have hq' : { q with settings := s' }.Undisturbed := ⟨hq.around, hq.fate⟩
  cases hread : SourceFile.read q.tree (SourceFile.pathBelow root file) with
  | error e =>
    have hfree : FileUndisturbed q s' r root file := fun text facts htext => by
      rw [hread] at htext
      cases htext
    exact ⟨_, _, contribution?_of_trouble hq hread,
      contribution?_of_trouble (q := { q with settings := s' }) hq' hread, .inl ⟨hfree, rfl⟩⟩
  | ok text =>
    have hthese : FileUndisturbed q s' r root file ↔
        ∀ facts, Analysis.HasFacts q.settings (SourceFile.namesakeLines q.tree file) text facts →
          Analysis.Undisturbed q.settings s' r file facts := by
      refine ⟨fun hall facts => hall text facts hread, fun hone text' facts htext' => ?_⟩
      rw [hread] at htext'
      cases htext'
      exact hone facts
    refine ⟨_, _, contribution?_of_text hq hname hread,
      contribution?_of_text (q := { q with settings := s' }) hq' hname hread, ?_⟩
    rw [hthese]
    exact Analysis.among_ofText h hr hr' file _ text

/-- What a file contributes of a rule that is on is in the report. -/
theorem exists_reported (hstart : start q = .ok (root, files, logs)) (hq : q.Undisturbed)
    (found : DirectorySnapshot) (hr : q.settings.isEnabled r.id = true) {file : String}
    (hfile : file ∈ files) {a : FileResult} (ha : contribution? (task q root) file = some a)
    (hsome : r.among a.findings ≠ []) :
    r.scope ≠ .project ∧ ∃ f ∈ (reportOf q root files found).findings,
      f.rule = r.id ∧ f.path = file := by
  obtain ⟨g, hg⟩ := List.exists_mem_of_ne_nil _ hsome
  obtain ⟨hg, hgr⟩ := Rule.mem_among.mp hg
  obtain ⟨hpath, rule, hscope, hrule⟩ := (contribution?_regular hq ha).mem_rule hg
  have heq : rule = r := Rule.id_injective (hrule.symm.trans hgr)
  obtain ⟨f, hf⟩ := Ledger.settle_some hr hgr
  obtain ⟨hfr, hfp⟩ := Ledger.settle_keeps hf
  refine ⟨heq ▸ hscope, f, ?_, hfr.trans hgr, hfp.trans hpath⟩
  exact (mem_report_contributions hstart hq found).mpr (.inl ⟨file, hfile, a, ha, g, hg, hf⟩)

/-- What is reported of a rule about single files is contributed by the file. -/
theorem among_ne_nil_of_reported (hstart : start q = .ok (root, files, logs)) (hq : q.Undisturbed)
    {found : DirectorySnapshot} (hscope : r.scope ≠ .project) {f : Finding}
    (hf : f ∈ (reportOf q root files found).findings)
    (hfr : f.rule = r.id) {a : FileResult} (ha : contribution? (task q root) f.path = some a) :
    r.among a.findings ≠ [] := by
  rcases (mem_report_contributions hstart hq found).mp hf with
    ⟨file, -, b, hb, g, hg, hsettle⟩ | ⟨rule, hrule, g, hg, hsettle⟩
  · obtain ⟨hgr, hgp⟩ := Ledger.settle_keeps hsettle
    have hfile : f.path = file := hgp.trans ((contribution?_regular hq hb).mem_rule hg).1
    rw [hfile, hb] at ha
    cases ha
    exact List.ne_nil_of_mem (Rule.mem_among.mpr ⟨hg, hgr.symm.trans hfr⟩)
  · obtain ⟨hgr, -⟩ := Ledger.settle_keeps hsettle
    cases rule with
    | requiredDirectory =>
      have hof := (Rules.requiredDirectory_ofRule hg).rule
      have heq : Rule.requiredDirectory = r :=
        Rule.id_injective (hof.symm.trans (hgr.symm.trans hfr))
      exact absurd (heq ▸ rfl) hscope
    | _ => cases hg

/-- If each file contributes the same findings of a rule, the reports hold the same ones. -/
theorem mem_reportOf_congr (hstart : start q = .ok (root, files, logs)) (hq : q.Undisturbed)
    (h : q.settings.AlikeButFileRules s') (hr : q.settings.isEnabled r.id = true)
    (hr' : s'.isEnabled r.id = true) (found : DirectorySnapshot)
    (hall : ∀ file ∈ files, FileUndisturbed q s' r root file) {f : Finding} (hf : f.rule = r.id) :
    f ∈ (reportOf q root files found).findings ↔
      f ∈ (reportOf { q with settings := s' } root files found).findings := by
  have hq' : { q with settings := s' }.Undisturbed := ⟨hq.around, hq.fate⟩
  have hstart' := (start_congr h).trans hstart
  rw [mem_report_contributions hstart hq, mem_report_contributions hstart' hq']
  refine or_congr (exists_congr fun file => and_congr_right fun hfile => ?_) ?_
  · obtain ⟨a, b, ha, hb, hcases⟩ := among_contribution hstart hq h hr hr' hfile
    have hsame : r.among a.findings = r.among b.findings := by
      rcases hcases with ⟨-, hsame⟩ | ⟨hnot, -⟩
      · exact hsame
      · exact absurd (hall file hfile) hnot
    simp only [ha, hb, Option.some.injEq, exists_eq_left']
    exact Ledger.exists_settled_congr h hr hr' hsame hf
  · have hfindings (rule : Rule) :
        projectFindings s' found rule = projectFindings q.settings found rule := by
      cases rule <;> simp only [projectFindings, h.requiredDirectories]
    simp only [h.projectRules_eq, hfindings]
    exact exists_congr fun rule => and_congr_right fun _ =>
      Ledger.exists_settled_congr h hr hr' rfl hf

/-- The reports of two runs hold the same findings of a rule just if each of the files contributes
the same ones. -/
theorem among_reportOf_iff (hstart : start q = .ok (root, files, logs)) (hq : q.Undisturbed)
    (h : q.settings.AlikeButFileRules s') (hr : q.settings.isEnabled r.id = true)
    (hr' : s'.isEnabled r.id = true) (found : DirectorySnapshot) :
    r.among (reportOf q root files found).findings =
      r.among (reportOf { q with settings := s' } root files found).findings ↔
    ∀ file ∈ files, FileUndisturbed q s' r root file := by
  have hq' : { q with settings := s' }.Undisturbed := ⟨hq.around, hq.fate⟩
  have hstart' := (start_congr h).trans hstart
  constructor
  · intro hsame file hfile
    have hmem (f : Finding) (hfr : f.rule = r.id) :
        f ∈ (reportOf q root files found).findings ↔
          f ∈ (reportOf { q with settings := s' } root files found).findings := by
      have hamong : f ∈ r.among (reportOf q root files found).findings ↔
          f ∈ r.among (reportOf { q with settings := s' } root files found).findings := by
        rw [hsame]
      simpa only [Rule.mem_among, hfr, and_true] using hamong
    obtain ⟨a, b, ha, hb, hcases⟩ := among_contribution hstart hq h hr hr' hfile
    rcases hcases with ⟨hfree, -⟩ | ⟨-, ⟨hnone, hsome⟩ | ⟨hsome, hnone⟩⟩
    · exact hfree
    · obtain ⟨hscope, f, hf, hfr, rfl⟩ := exists_reported hstart' hq' found hr' hfile hb hsome
      have hf := (hmem f hfr).mpr hf
      exact absurd hnone (among_ne_nil_of_reported hstart hq hscope hf hfr ha)
    · obtain ⟨hscope, f, hf, hfr, rfl⟩ := exists_reported hstart hq found hr hfile ha hsome
      have hf := (hmem f hfr).mp hf
      exact absurd hnone (among_ne_nil_of_reported hstart' hq' hscope hf hfr hb)
  · intro hall
    refine Ledger.among_report_eq nodup_ledgerOf nodup_ledgerOf (fun f hf => ?_)
      (key_injective_ledgerOf q.settings found (ofRules_contributions hq root files))
    have hmem := mem_reportOf_congr hstart hq h hr hr' found hall hf
    rwa [reportOf, reportOf, Ledger.mem_report, Ledger.mem_report] at hmem

/-- Which other rules are on does not show in the findings of a rule, neither on a text nor in the
report of a run, with one exception: where the rule about numbers is on under one of the settings
only and cannot show a number, the findings of the others give way to a fault. -/
theorem rule_independence {s s' : Settings} (h : s.AlikeButFileRules s') {r : Rule}
    (hr : s.isEnabled r.id = true) (hr' : s'.isEnabled r.id = true) :
    (∀ path stoodFor text,
      r.among (Analysis.ofText s path stoodFor text).1.findings =
          r.among (Analysis.ofText s' path stoodFor text).1.findings ↔
        ∀ facts, Analysis.HasFacts s stoodFor text facts →
          Analysis.Undisturbed s s' r path facts) ∧
    ∀ (q : Request) root files logs, q.settings = s → q.Undisturbed →
      start q = .ok (root, files, logs) →
      ((run q).report.map (fun report => r.among report.findings) =
          (run { q with settings := s' }).report.map (fun report => r.among report.findings) ↔
        (endingMishap? q root files = none → ∀ file ∈ files, FileUndisturbed q s' r root file)) := by
  refine ⟨fun path stoodFor text => ?_, ?_⟩
  · rcases Analysis.among_ofText h hr hr' path stoodFor text with ⟨hfree, hsame⟩ | ⟨hnot, hone⟩
    · exact iff_of_true hsame hfree
    · refine iff_of_false (fun hsame => ?_) hnot
      rw [hsame] at hone
      rcases hone with ⟨hnone, hsome⟩ | ⟨hsome, hnone⟩
      · exact hsome hnone
      · exact hsome hnone
  · rintro q root files logs rfl hq hstart
    have hq' : { q with settings := s' }.Undisturbed := ⟨hq.around, hq.fate⟩
    have hstart' := (start_congr h).trans hstart
    obtain ⟨found, logs', hfound⟩ := snapshot_of_start hstart
    rw [report_eq hstart hq hfound, report_eq (q := { q with settings := s' }) hstart' hq' hfound]
    have hmishap : endingMishap? { q with settings := s' } root files = endingMishap? q root files :=
      rfl
    rw [hmishap]
    cases endingMishap? q root files with
    | some m => exact iff_of_true rfl nofun
    | none =>
      have hiff := among_reportOf_iff hstart hq h hr hr' found
      simp only [Except.map, Except.ok.injEq, forall_const]
      exact hiff

/-- The settings of the run over two files without the rule about the case of names. -/
def anyCase : Settings :=
  { twoFiles.settings with enabled := [(Rule.snakeCase.id, false)] }

theorem missingHint_without_snakeCase :
    Rule.missingHint.among (Analysis.ofText twoFiles.settings "b.py" [] "x = 1\n").1.findings =
        Rule.missingHint.among (Analysis.ofText anyCase "b.py" [] "x = 1\n").1.findings ∧
      (run twoFiles).report.map (fun report => Rule.missingHint.among report.findings) =
        (run { twoFiles with settings := anyCase }).report.map
          (fun report => Rule.missingHint.among report.findings) := by
  have halike : twoFiles.settings.AlikeButFileRules anyCase := by
    refine ⟨rfl, rfl, rfl, rfl, rfl, rfl, rfl, rfl, rfl, fun rule hscope => ?_⟩
    cases rule with
    | requiredDirectory => decide
    | parseError => decide
    | _ => exact absurd rfl hscope
  have hsame : anyCase.isEnabled Rule.magicNumber.id =
      twoFiles.settings.isEnabled Rule.magicNumber.id := by decide
  obtain ⟨htext, hrun⟩ := rule_independence halike (r := .missingHint) (by decide) (by decide)
  refine ⟨(htext _ _ _).mpr fun _ _ _ hdiffer => absurd hsame hdiffer, ?_⟩
  refine (hrun twoFiles _ _ _ rfl ⟨rfl, fun _ _ => rfl⟩ start_twoFiles).mpr fun _ _ _ => ?_
  exact fun _ _ _ _ _ hdiffer => absurd hsame hdiffer

end Run

end SourceConventions
