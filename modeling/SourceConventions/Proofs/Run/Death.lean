import SourceConventions.Proofs.Run.FileIndependence
import SourceConventions.Run.Death

/-!
# Runs that lose a worker

When a worker dies after all files have been handed out, the pool goes on as one in which the files
that are lost end in a mishap. Each of them has one finding that says so, and all other files keep
the findings that they have in a run of any number of workers none of which dies.
-/

namespace SourceConventions.Run

namespace Pool

variable {limit : Nat} {s : Settings} {around : Surroundings} {task : String → Outcome} {d : Death}
  {p q : Pool} {ms : List Move}

/-- The number of files that have been handed out or are waiting. -/
def known (p : Pool) : Nat := p.submitted.length + p.waiting.length

theorem Steps.known_eq (h : Steps limit s around task p ms q) : q.known = p.known := by
  induction h with
  | nil => rfl
  | cons head _ ih =>
    rw [ih]
    cases head with
    | look hlook =>
      obtain ⟨-, rfl⟩ := Prod.mk.inj hlook
      rfl
    | submit hwaiting =>
      simp only [known, hwaiting, List.length_cons]
      omega
    | collect _ _ hlook =>
      obtain ⟨-, rfl⟩ := Prod.mk.inj hlook
      rfl

theorem known_of_round {sch : Schedule} {n : Nat}
    (h : round limit s around sch task n p = .inr q) : q.known = p.known := by
  obtain ⟨ms, q', hsteps, ⟨e, hend, -⟩ | ⟨hround, -⟩⟩ := round_steps limit s around task sch n p
  · rw [h] at hend
    cases hend
  · rw [h] at hround
    cases hround
    exact hsteps.known_eq

/-- A worker that dies when all files have been handed out does not show in the handing out. -/
theorem fillUntil_eq {waiting : List String}
    (h : p.submitted.length + waiting.length ≤ d.handedOut) :
    fillUntil d limit around waiting p =
      if (fill limit around waiting p).1 then .inl (.interrupted (fill limit around waiting p).2.progress)
      else .inr (fill limit around waiting p).2 := by
  induction waiting generalizing p with
  | nil => rfl
  | cons file rest ih =>
    rw [List.length_cons] at h
    have hopen : ¬ d.handedOut ≤ p.submitted.length := by omega
    rw [fillUntil, fill]
    dsimp only [look]
    rw [if_neg hopen]
    split
    next => rfl
    next =>
      split
      next => rfl
      next =>
        refine ih ?_
        rw [List.length_cons]
        omega

theorem roundUntil_eq (sch : Schedule) (n : Nat) (h : p.known ≤ d.handedOut) :
    roundUntil d limit s around sch task n p = round limit s around sch (d.outcome task) n p := by
  rw [roundUntil, round, fillUntil_eq h]
  obtain ⟨interrupted, q⟩ := fill limit around p.waiting p
  cases interrupted <;> rfl

theorem roundsUntil_eq (sch : Schedule) (fuel n : Nat) (h : p.known ≤ d.handedOut) :
    roundsUntil d limit s around sch task fuel n p =
      rounds limit s around sch (d.outcome task) fuel n p := by
  induction fuel generalizing n p with
  | zero => rfl
  | succ fuel ih =>
    rw [roundsUntil, rounds, roundUntil_eq sch n h]
    cases hround : round limit s around sch (d.outcome task) n p with
    | inl ending => rfl
    | inr q => exact ih (n + 1) (known_of_round hround ▸ h)

/-- A pool that loses a worker when all files have been handed out is one in which the analysis of
the files that are lost ends in a mishap. -/
theorem runUntil_eq (workers : Nat) (sch : Schedule) {files : List String} (p : Progress)
    (h : files.length ≤ d.handedOut) :
    runUntil d workers s around sch task files p =
      run workers s around sch (d.outcome task) files p :=
  roundsUntil_eq sch _ _ ((Nat.zero_add files.length).le.trans h)

end Pool

variable {d : Death} {q : Request} {root : String} {files : List String} {logs : List Event}

/-- A run that loses a worker but no file is a run that loses no worker. -/
theorem runUntil_of_none_lost (hstart : start q = .ok (root, files, logs))
    (hall : files.length ≤ d.handedOut) (hended : ∀ file, d.ended file = true) :
    runUntil d q = run q := by
  have houtcome : d.outcome (task q root) = task q root := funext fun file => if_pos (hended file)
  have hwork (workers : Nat) : workUntil d q root workers files = work q root workers files := by
    rw [workUntil, work]
    split
    · rfl
    · rw [Pool.runUntil_eq workers q.schedule _ hall, houtcome]
  have hending := hwork (workerCount q.processors q.jobs files.length)
  rw [runUntil, run, hstart]
  dsimp only
  generalize work q root (workerCount q.processors q.jobs files.length) files = ending at hending ⊢
  subst hending
  cases workUntil d q root (workerCount q.processors q.jobs files.length) files <;> rfl

/-! ### What lost files contribute -/

/-- The only finding about a file that is lost. -/
def lostFinding (file : String) : Finding := (Analysis.internalFault file Death.lost.text).finding

theorem contribution?_of_ended {file : String} (h : d.ended file = true)
    (outcome : String → Outcome) :
    contribution? (d.outcome outcome) file = contribution? outcome file := by
  rw [contribution?, contribution?, Death.outcome, if_pos h]

theorem contribution?_of_lost {file : String} (h : d.ended file = false)
    (outcome : String → Outcome) :
    contribution? (d.outcome outcome) file =
      some (Analysis.internalFault file Death.lost.text).result :=
  contribution?_of_mishap (if_neg (Bool.eq_false_iff.mp h))

theorem contribution?_outcome_regular (d : Death) (hq : q.Undisturbed) (root file : String)
    (r : FileResult) (h : contribution? (d.outcome (task q root)) file = some r) : r.Regular q.settings file := by
  cases hended : d.ended file with
  | true => exact contribution?_regular hq ((contribution?_of_ended hended _).symm.trans h)
  | false =>
    rw [contribution?_of_lost hended _] at h
    exact Option.some.inj h ▸ .faulty rfl

theorem exists_contribution_outcome (hq : q.Undisturbed) (root file : String) :
    ∃ r, contribution? (d.outcome (task q root)) file = some r := by
  cases hended : d.ended file with
  | true => exact contribution?_of_ended hended (task q root) ▸ exists_contribution hq root file
  | false => exact ⟨_, contribution?_of_lost hended _⟩

/-! ### The report -/

/-- The ledger of a pool that has lost a worker. -/
def ledgerUntil (d : Death) (q : Request) (root : String) (files : List String)
    (found : DirectorySnapshot) : Ledger :=
  ledgerOf q.settings found (files.filterMap (contribution? (d.outcome (task q root))))

theorem report_of_death (hstart : start q = .ok (root, files, logs)) (hq : q.Undisturbed)
    (hworkers : 1 < workerCount q.processors q.jobs files.length)
    (hall : files.length ≤ d.handedOut) {found : DirectorySnapshot} {logs' : List LogEntry}
    (hfound : q.tree.snapshot root defaultExcludedNames = .ok (found, logs')) :
    (runUntil d q).report = .ok (ledgerUntil d q root files found).report := by
  have htask (file : String) : d.outcome (task q root) file ≠ .interrupted := by
    rw [Death.outcome]
    split
    · exact task_ne_interrupted hq root file
    · exact nofun
  obtain ⟨ms, p, -, hrun, -, hperm, hgoing, hledger⟩ :=
    Pool.run_finished hq.quiet htask (Nat.lt_of_succ_lt hworkers) q.schedule files hq.going
  have hwork : workUntil d q root (workerCount q.processors q.jobs files.length) files =
      .finished p.progress := by
    rw [workUntil, if_neg (Nat.not_le.mpr hworkers), Pool.runUntil_eq _ _ _ hall]
    exact hrun
  have hafter : q.around.cancelledAfter = false := by rw [hq.around]; rfl
  rw [runUntil, hstart]
  dsimp only
  rw [hwork]
  dsimp only
  rw [finish, hgoing, hafter, conclude_of_snapshot hfound hledger]
  have hcontributions := hperm.filterMap (contribution? (d.outcome (task q root)))
  have hrules := ofRules_of_regular (contribution?_outcome_regular d hq root)
    (Pool.collects ms)
  exact congrArg Except.ok (report_ledgerOf_perm hcontributions hrules)

/-- What the ledger of a run tells of a file comes of what the file contributes. -/
theorem mem_ledgerOf_of_isAbout (hstart : start q = .ok (root, files, logs))
    {outcome : String → Outcome} (hregular : ∀ file r, contribution? outcome file = some r →
      r.Regular q.settings file) (found : DirectorySnapshot) {file : String} (hfile : file ∈ files)
    {f : Finding} (hf : f.isAbout file = true) :
    f ∈ (ledgerOf q.settings found (files.filterMap (contribution? outcome))).findings ↔
      ∃ r, contribution? outcome file = some r ∧
        ∃ g ∈ r.findings, Ledger.settle q.settings g = some f := by
  obtain ⟨hpath, hrule⟩ := Bool.and_eq_true_iff.mp hf
  rw [mem_ledgerOf_contributions hstart hregular]
  constructor
  · rintro (⟨other, -, r, hr, g, hg, hsettle⟩ | ⟨rule, -, g, hg, hsettle⟩)
    · have hother := (isAbout_of_regular (hregular other r hr) hg hsettle).1
      obtain rfl : other = file := hother.symm.trans (beq_iff_eq.mp hpath)
      exact ⟨r, hr, g, hg, hsettle⟩
    · exact absurd (rule_of_projectFinding hg hsettle) (bne_iff_ne.mp hrule)
  · exact fun ⟨r, hr, g, hg, hsettle⟩ => .inl ⟨file, hfile, r, hr, g, hg, hsettle⟩

theorem isAbout_of_settle_lostFinding {s : Settings} {file : String} {f : Finding}
    (h : Ledger.settle s (lostFinding file) = some f) : f.isAbout file = true := by
  obtain ⟨hpath, hrule⟩ := isAbout_of_regular (s := s) (r := (Analysis.internalFault file _).result)
    (.faulty rfl) (List.mem_singleton_self _) h
  exact Bool.and_eq_true_iff.mpr ⟨beq_iff_eq.mpr hpath, bne_iff_ne.mpr hrule⟩

theorem eq_toList_of_mem_iff {α : Type} {l : List α} {o : Option α} (hl : l.Nodup)
    (h : ∀ a, a ∈ l ↔ o = some a) : l = o.toList := by
  cases o with
  | none => exact List.eq_nil_iff_forall_not_mem.mpr fun a ha => nomatch (h a).mp ha
  | some b =>
    refine List.perm_singleton.mp ((List.perm_ext_iff_of_nodup hl (List.nodup_singleton b)).mpr ?_)
    intro a
    rw [h, Option.some.injEq, List.mem_singleton, eq_comm]

/-- A file whose analysis has come to its end keeps its findings. -/
theorem filter_report_of_ended (hstart : start q = .ok (root, files, logs)) (hq : q.Undisturbed)
    (found : DirectorySnapshot) {file : String} (hfile : file ∈ files) (hended : d.ended file = true) :
    (ledgerUntil d q root files found).report.findings.filter (·.isAbout file) =
      (reportOf q root files found).findings.filter (·.isAbout file) := by
  have hregular := contribution?_outcome_regular d hq root
  have hkey := key_injective_ledgerOf q.settings found (ofRules_of_regular hregular files)
  refine Ledger.filter_report_eq nodup_ledgerOf nodup_ledgerOf (fun f hf => ?_) hkey
  rw [mem_ledgerOf_of_isAbout hstart hregular found hfile hf, contribution?_of_ended hended]
  exact (mem_ledgerOf_of_isAbout hstart (fun _ _ => contribution?_regular hq) found hfile hf).symm

/-- A file that is lost has one finding. -/
theorem filter_report_of_lost (hstart : start q = .ok (root, files, logs)) (hq : q.Undisturbed)
    (found : DirectorySnapshot) {file : String} (hfile : file ∈ files)
    (hended : d.ended file = false) :
    (ledgerUntil d q root files found).report.findings.filter (·.isAbout file) =
      (Ledger.settle q.settings (lostFinding file)).toList := by
  have hregular := contribution?_outcome_regular d hq root
  have hnodup : (ledgerUntil d q root files found).report.findings.Nodup :=
    (Sorting.sort_perm _ _).nodup_iff.mpr nodup_ledgerOf
  have hmem {f : Finding} (hf : f.isAbout file = true) :
      f ∈ (ledgerUntil d q root files found).findings ↔
        Ledger.settle q.settings (lostFinding file) = some f := by
    rw [ledgerUntil, mem_ledgerOf_of_isAbout hstart hregular found hfile hf,
      contribution?_of_lost hended]
    constructor
    · rintro ⟨r, hr, g, hg, hsettle⟩
      cases hr
      rwa [List.mem_singleton.mp hg] at hsettle
    · exact fun hsettle => ⟨_, rfl, _, List.mem_singleton_self _, hsettle⟩
  refine eq_toList_of_mem_iff (hnodup.filter _) fun f => ?_
  rw [List.mem_filter, Ledger.mem_report]
  constructor
  · exact fun ⟨hf, habout⟩ => (hmem habout).mp hf
  · intro hsettle
    have habout := isAbout_of_settle_lostFinding hsettle
    exact ⟨(hmem habout).mpr hsettle, habout⟩

/-- A run whose worker dies when all files have been handed out has a report that counts each of
them. A file whose analysis has come to its end keeps the findings of every run that has a report and
loses no worker, and a file that is lost has one finding that says so. -/
theorem report_after_death (hstart : start q = .ok (root, files, logs)) (hq : q.Undisturbed)
    (hworkers : 1 < workerCount q.processors q.jobs files.length)
    (hall : files.length ≤ d.handedOut) :
    ∃ r, (runUntil d q).report = .ok r ∧ r.files = files.length ∧
      (∀ file ∈ files, d.ended file = true → ∀ jobs processors schedule r',
        (run { q with jobs, processors, schedule }).report = .ok r' →
          r.findings.filter (·.isAbout file) = r'.findings.filter (·.isAbout file)) ∧
      ∀ file ∈ files, d.ended file = false →
        r.findings.filter (·.isAbout file) =
          (Ledger.settle q.settings (lostFinding file)).toList := by
  obtain ⟨found, logs', hfound⟩ := snapshot_of_start hstart
  have hregular := contribution?_outcome_regular d hq root
  refine ⟨_, report_of_death hstart hq hworkers hall hfound,
    files_ledgerOf_contributions hstart hregular (exists_contribution_outcome hq root) found, ?_,
    fun file => filter_report_of_lost hstart hq found⟩
  intro file hfile hended jobs processors schedule r' hr'
  rw [eq_reportOf (q := { q with jobs, processors, schedule }) hstart hq.fate hfound hr']
  exact filter_report_of_ended hstart hq found hfile hended

/-! ### Two files -/

/-- Neither of the two files has a finding. -/
theorem findings_twoFiles :
    ∀ file ∈ ["a.py", "b.py"], ∀ r, contribution? (task twoFiles "/p") file = some r →
      r.findings = [] := by
  have hq : twoFiles.Undisturbed := ⟨rfl, fun _ _ => rfl⟩
  have ha : Path.moduleName? "a.py" = .ok "a" := by decide
  have hb : Path.moduleName? "b.py" = .ok "b" := by decide
  simp only [List.forall_mem_cons]
  refine ⟨?_, ?_, fun _ h => absurd h List.not_mem_nil⟩
  · rw [contribution?_of_text hq ha read_twoFiles.1, namesakeLines_twoFiles.1]
    intro r hr
    rw [← Option.some.inj hr]
    decide +kernel
  · rw [contribution?_of_text hq hb read_twoFiles.2, namesakeLines_twoFiles.2]
    intro r hr
    rw [← Option.some.inj hr]
    decide +kernel

theorem report_of_twoFiles_alone :
    ∃ r, (run { twoFiles with jobs := some 1 }).report = .ok r ∧
      ∀ file ∈ ["a.py", "b.py"], r.findings.filter (·.isAbout file) = [] := by
  have hstart : start { twoFiles with jobs := some 1 } = .ok ("/p", ["a.py", "b.py"], []) :=
    (start_twoFiles :)
  have hq : Request.Undisturbed { twoFiles with jobs := some 1 } := ⟨rfl, fun _ _ => rfl⟩
  obtain ⟨r, hr⟩ := exists_report_of_read hstart hq
    (by simpa using And.intro ⟨_, read_twoFiles.1⟩ ⟨_, read_twoFiles.2⟩)
  refine ⟨r, hr, fun file hfile => List.filter_eq_nil_iff.mpr fun f hf habout => ?_⟩
  rw [eq_reportOf hstart hq.fate snapshot_twoFiles hr] at hf
  obtain ⟨r', hr', g, hg, -⟩ := (mem_ledgerOf_of_isAbout hstart
    (fun _ _ => contribution?_regular hq) _ hfile habout).mp (Ledger.mem_report.mp hf)
  have htask (q : Request) : task { q with jobs := some 1 } = task q := rfl
  rw [findings_twoFiles file hfile r' (htask twoFiles ▸ hr')] at hg
  cases hg

theorem report_after_death_of_second :
    ∃ r r', (runUntil ⟨2, (· == "a.py")⟩ twoFiles).report = .ok r ∧ r.files = 2 ∧
      (run { twoFiles with jobs := some 1 }).report = .ok r' ∧
      r.findings.filter (·.isAbout "a.py") = r'.findings.filter (·.isAbout "a.py") ∧
      r.findings.filter (·.isAbout "b.py") = [lostFinding "b.py"] := by
  obtain ⟨r, hr, hfiles, hended, hlost⟩ := report_after_death (d := ⟨2, (· == "a.py")⟩)
    start_twoFiles ⟨rfl, fun _ _ => rfl⟩ (by decide) (by decide)
  obtain ⟨r', hr', -⟩ := report_of_twoFiles_alone
  refine ⟨r, r', hr, hfiles, hr', hended "a.py" (by decide) rfl _ _ _ r' hr', ?_⟩
  rw [hlost "b.py" (by decide) rfl]
  rfl

/-- Not every pool has a report in which files keep their findings: not if the run is cancelled, not if
a worker dies before the last file has been handed out, and not if none of the files in flight has
come to its end when a worker dies. -/
theorem report_lost_with_worker :
    (run { twoFiles with around := { Surroundings.quiet with cancelledBefore := true } }).report =
        .error .aborted ∧
      (runUntil ⟨1, fun _ => true⟩ twoFiles).report = .error (.mishap Death.closed) ∧
      ∃ r r', (runUntil ⟨2, fun _ => false⟩ twoFiles).report = .ok r ∧
        (run { twoFiles with jobs := some 1 }).report = .ok r' ∧
        ∀ file ∈ ["a.py", "b.py"],
          r.findings.filter (·.isAbout file) ≠ r'.findings.filter (·.isAbout file) := by
  refine ⟨?_, ?_, ?_⟩
  · have hstart : start { twoFiles with
        around := { Surroundings.quiet with cancelledBefore := true } } =
          .ok ("/p", ["a.py", "b.py"], []) := (start_twoFiles :)
    rw [run, hstart]
    rfl
  · rw [runUntil, start_twoFiles]
    rfl
  · have hq : twoFiles.Undisturbed := ⟨rfl, fun _ _ => rfl⟩
    obtain ⟨r', hr', hnone⟩ := report_of_twoFiles_alone
    refine ⟨_, r', report_of_death start_twoFiles hq (by decide) (by decide) snapshot_twoFiles, hr',
      fun file hfile => ?_⟩
    rw [filter_report_of_lost start_twoFiles hq _ hfile rfl, hnone file hfile]
    revert file
    decide

end SourceConventions.Run
