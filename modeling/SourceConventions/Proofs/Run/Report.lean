import SourceConventions.Proofs.Analysis.Result
import SourceConventions.Proofs.Files.Walk
import SourceConventions.Proofs.Run.Contribution
import SourceConventions.Run.Execution

/-!
# The report of a run

A run that nothing disturbs reports what its files contribute and what the rules find about its
directories. The findings that meet in one ledger are told apart by their keys, so that the report
depends neither on the number of workers nor on the order in which they end.
-/

namespace SourceConventions

namespace Finding

theorem key_withSeverity (f : Finding) (severity : Severity) :
    (f.withSeverity severity).key = f.key := rfl

/-- How a finding is reported is told by its key. -/
theorem OfSomeRule.settle_eq_of_key_eq {s : Settings} {f g f' g' : Finding} (hf : f.OfSomeRule)
    (hg : g.OfSomeRule) (hf' : Ledger.settle s f = some f') (hg' : Ledger.settle s g = some g')
    (h : f'.key = g'.key) : f' = g' := by
  have hkey {a b : Finding} (hab : Ledger.settle s a = some b) : b.key = a.key := by
    rw [Ledger.settle] at hab
    split at hab
    · rw [← Option.some.inj hab]
      exact key_withSeverity a _
    · cases hab
  obtain ⟨rule, path, hrule⟩ := hf
  obtain ⟨rule', path', hrule'⟩ := hg
  have hfg : f = g := hrule.eq_of_key_eq hrule' ((hkey hf').symm.trans (h.trans (hkey hg')))
  rw [hfg, hg'] at hf'
  exact (Option.some.inj hf').symm

end Finding

namespace Run

variable {s : Settings} {found : DirectorySnapshot} {rs rs' : List FileResult}

theorem projectFindings_ofSomeRule {rule : Rule} {f : Finding}
    (hf : f ∈ projectFindings s found rule) : f.OfSomeRule := by
  cases rule with
  | requiredDirectory => exact ⟨_, _, Rules.requiredDirectory_ofRule hf⟩
  | _ => cases hf

/-- What a run has in its ledger in the end. -/
def ledgerOf (s : Settings) (found : DirectorySnapshot) (rs : List FileResult) : Ledger :=
  (Ledger.empty.addFiles s rs).addRules s (projectFindings s found) s.projectRules

def OfRules (rs : List FileResult) : Prop := ∀ r ∈ rs, ∀ f ∈ r.findings, f.OfSomeRule

theorem nodup_ledgerOf : (ledgerOf s found rs).findings.Nodup :=
  Ledger.nodup_addRules (Ledger.nodup_addFiles .nil)

/-- Findings are in the ledger of a run as they are settled. -/
theorem exists_settled_of_mem_ledgerOf (hrs : OfRules rs) {f : Finding}
    (hf : f ∈ (ledgerOf s found rs).findings) :
    ∃ g : Finding, g.OfSomeRule ∧ Ledger.settle s g = some f := by
  rcases Ledger.mem_addRules.mp hf with hf | ⟨rule, -, g, hg, hsettle⟩
  · rcases Ledger.mem_addFiles.mp hf with hf | ⟨r, hr, -, g, hg, hsettle⟩
    · cases hf
    · exact ⟨g, hrs r hr g hg, hsettle⟩
  · exact ⟨g, projectFindings_ofSomeRule hg, hsettle⟩

/-- No two findings that meet in a ledger share a key. -/
theorem key_injective_ledgerOf (s : Settings) (found : DirectorySnapshot) (hrs : OfRules rs) :
    ∀ f ∈ (ledgerOf s found rs).findings, ∀ g ∈ (ledgerOf s found rs).findings,
      f.key = g.key → f = g := by
  intro f hf g hg h
  obtain ⟨f', hf', hsettle⟩ := exists_settled_of_mem_ledgerOf hrs hf
  obtain ⟨g', hg', hsettle'⟩ := exists_settled_of_mem_ledgerOf hrs hg
  exact hf'.settle_eq_of_key_eq hg' hsettle hsettle' h

/-- The order in which results come in does not show in the report. -/
theorem report_ledgerOf_perm (hperm : rs.Perm rs') (hrs : OfRules rs) :
    (ledgerOf s found rs).report = (ledgerOf s found rs').report := by
  refine Ledger.report_eq_of_mem_iff nodup_ledgerOf nodup_ledgerOf (fun f => ?_) ?_
    (key_injective_ledgerOf s found hrs)
  · simp only [ledgerOf, Ledger.mem_addRules, Ledger.mem_addFiles, hperm.mem_iff]
  · simp only [ledgerOf, Ledger.files_addRules, Ledger.files_addFiles, hperm.countP_eq]

/-! ### Runs that nothing disturbs -/

/-- Nothing from outside disturbs the run or the analysis of its files. -/
structure Request.Undisturbed (q : Request) : Prop where
  around : q.around = .quiet
  fate : ∀ path o, q.fate path o = o

namespace Request.Undisturbed

variable {q : Request}

theorem quiet (hq : q.Undisturbed) (n : Nat) : q.around.during n = none := by
  rw [hq.around]
  rfl

theorem going (hq : q.Undisturbed) : (Progress.start q.around).cancelled = false := by
  rw [hq.around]
  rfl

end Request.Undisturbed

variable {q : Request} {root : String} {files : List String} {logs : List Event}

theorem sources_of_start (h : start q = .ok (root, files, logs)) :
    ∃ all logs', q.tree.sources root defaultExcludedNames = .ok (all, logs') ∧
      files = all.filter (!q.settings.excludes ·) := by
  rw [start] at h
  cases hroot : checkRoot q with
  | error f => rw [hroot] at h; cases h
  | ok root' =>
    rw [hroot] at h
    change (sources q root').map (root', ·) = .ok (root, files, logs) at h
    cases hsources : sources q root' with
    | error f => rw [hsources] at h; cases h
    | ok answer =>
      rw [hsources] at h
      cases h
      rw [sources] at hsources
      cases hall : q.tree.sources root defaultExcludedNames with
      | error f => rw [hall] at hsources; cases hsources
      | ok answer =>
        rw [hall] at hsources
        cases hsources
        exact ⟨answer.1, answer.2, rfl, rfl⟩

/-- The directories of a project can be told if its files can. -/
theorem snapshot_of_start (h : start q = .ok (root, files, logs)) :
    ∃ found logs', q.tree.snapshot root defaultExcludedNames = .ok (found, logs') := by
  obtain ⟨all, logs', hsources, -⟩ := sources_of_start h
  obtain ⟨⟨found, logs''⟩, hsnapshot⟩ := FileTree.snapshot_ok_of_sources hsources
  exact ⟨found, logs'', hsnapshot⟩

theorem conclude_of_snapshot {found : DirectorySnapshot} {logs' : List LogEntry}
    (h : q.tree.snapshot root defaultExcludedNames = .ok (found, logs')) {p : Progress}
    (hledger : p.ledger = Ledger.empty.addFiles q.settings rs) :
    conclude q root p = .ok ((ledgerOf q.settings found rs).report, logs'.map Event.log) := by
  rw [conclude, h, hledger]
  rfl

theorem task_of_undisturbed (hq : q.Undisturbed) (root file : String) :
    task q root file = analyze q.settings q.tree root file := hq.fate _ _

theorem task_ne_interrupted (hq : q.Undisturbed) (root file : String) :
    task q root file ≠ .interrupted := by
  rw [task_of_undisturbed hq]
  exact analyze_ne_interrupted q.settings q.tree root file

/-- What a file contributes is made by the rules. -/
theorem contribution?_regular (hq : q.Undisturbed) {file : String} {r : FileResult}
    (h : contribution? (task q root) file = some r) : r.Regular q.settings file := by
  cases htask : task q root file with
  | result r' logs =>
    rw [contribution?_of_result htask] at h
    rw [task_of_undisturbed hq] at htask
    exact Option.some.inj h ▸ analyze_regular htask
  | mishap m =>
    rw [contribution?_of_mishap htask] at h
    exact Option.some.inj h ▸ .faulty rfl
  | interrupted => exact absurd htask (task_ne_interrupted hq root file)

theorem ofRules_of_regular {s : Settings} {outcome : String → Outcome}
    (hregular : ∀ file r, contribution? outcome file = some r → r.Regular s file)
    (files : List String) : OfRules (files.filterMap (contribution? outcome)) := by
  intro r hr f hf
  obtain ⟨file, -, hfile⟩ := List.mem_filterMap.mp hr
  exact (hregular file r hfile).ofSomeRule hf

theorem ofRules_contributions (hq : q.Undisturbed) (root : String) (files : List String) :
    OfRules (files.filterMap (contribution? (task q root))) :=
  ofRules_of_regular (fun _ _ => contribution?_regular hq) files

/-- The report that is made of what files contribute. -/
def reportOf (q : Request) (root : String) (files : List String) (found : DirectorySnapshot) :
    Report :=
  (ledgerOf q.settings found (files.filterMap (contribution? (task q root)))).report

theorem report_of_finished (hstart : start q = .ok (root, files, logs)) (hq : q.Undisturbed)
    {logs' : List LogEntry}
    (hfound : q.tree.snapshot root defaultExcludedNames = .ok (found, logs')) {p : Progress}
    (hwork : work q root (workerCount q.processors q.jobs files.length) files = .finished p)
    (hgoing : p.cancelled = false) (hledger : p.ledger = Ledger.empty.addFiles q.settings rs) :
    (run q).report = .ok (ledgerOf q.settings found rs).report := by
  have hafter : q.around.cancelledAfter = false := by rw [hq.around]; rfl
  rw [run, hstart]
  dsimp only
  rw [hwork]
  dsimp only
  rw [finish, hgoing, hafter, conclude_of_snapshot hfound hledger]
  rfl

/-- A run in a pool reports what its files contribute. -/
theorem report_of_pool (hstart : start q = .ok (root, files, logs)) (hq : q.Undisturbed)
    {logs' : List LogEntry}
    (hfound : q.tree.snapshot root defaultExcludedNames = .ok (found, logs'))
    (hworkers : 1 < workerCount q.processors q.jobs files.length) :
    (run q).report = .ok (reportOf q root files found) := by
  obtain ⟨ms, p, -, hrun, -, hperm, hgoing, hledger⟩ :=
    Pool.run_finished hq.quiet (task_ne_interrupted hq root) (Nat.lt_of_succ_lt hworkers)
      q.schedule files hq.going
  have hwork : work q root (workerCount q.processors q.jobs files.length) files =
      .finished p.progress := by
    rw [work, if_neg (Nat.not_le.mpr hworkers)]
    exact hrun
  have hcontributions := hperm.filterMap (contribution? (task q root))
  rw [report_of_finished hstart hq hfound hwork hgoing hledger, reportOf,
    report_ledgerOf_perm hcontributions (ofRules_contributions hq root (Pool.collects ms))]

/-- One worker reports the same if no analysis ends in a mishap. -/
theorem report_of_inline (hstart : start q = .ok (root, files, logs)) (hq : q.Undisturbed)
    {logs' : List LogEntry}
    (hfound : q.tree.snapshot root defaultExcludedNames = .ok (found, logs'))
    (hworkers : workerCount q.processors q.jobs files.length ≤ 1)
    (hresults : ∀ file ∈ files, ∃ r logs, task q root file = .result r logs) :
    (run q).report = .ok (reportOf q root files found) := by
  obtain ⟨p, hrun, hgoing, hledger⟩ := inline_of_results hq.quiet 0 hq.going hresults
  have hwork : work q root (workerCount q.processors q.jobs files.length) files = .finished p := by
    rw [work, if_pos hworkers]
    exact hrun
  exact report_of_finished hstart hq hfound hwork hgoing hledger

/-- With one worker the first mishap is all that comes of the run. -/
theorem report_of_inline_mishap (hstart : start q = .ok (root, files, logs)) (hq : q.Undisturbed)
    (hworkers : workerCount q.processors q.jobs files.length ≤ 1) {done rest : List String}
    {file : String} {m : Mishap} (hfiles : files = done ++ file :: rest)
    (hdone : ∀ file ∈ done, ∃ r logs, task q root file = .result r logs)
    (hfile : task q root file = .mishap m) : (run q).report = .error (.mishap m) := by
  obtain ⟨p, hrun⟩ := inline_of_mishap (s := q.settings) hq.quiet rest 0 hq.going hdone hfile
  have hwork : work q root (workerCount q.processors q.jobs files.length) files = .mishap m p := by
    rw [work, if_pos hworkers, hfiles]
    exact hrun
  rw [run, hstart]
  dsimp only
  rw [hwork]

end Run

end SourceConventions
