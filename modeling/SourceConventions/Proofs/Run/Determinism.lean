import Mathlib
import SourceConventions.Proofs.Files.Resolving
import SourceConventions.Proofs.Files.Sources
import SourceConventions.Proofs.Run.Report

/-!
# Reports do not depend on workers

If the analysis of every file has a result, every number of workers and every order in which they
end lead to the report that one worker makes.
-/

namespace SourceConventions.Run

variable {q : Request} {root : String} {files : List String} {logs : List Event}

/-- The results of files, each of them at the place of its file. -/
def ResultsOf (q : Request) (root : String) : List String → List FileResult → Prop :=
  List.Forall₂ fun file r => ∃ logs, analyze q.settings q.tree root file = .result r logs

theorem resultsOf_contributions (hq : q.Undisturbed)
    (hresults : ∀ file ∈ files, ∃ r logs, analyze q.settings q.tree root file = .result r logs) :
    ResultsOf q root files (files.filterMap (contribution? (task q root))) := by
  induction files with
  | nil => exact .nil
  | cons file rest ih =>
    obtain ⟨r, logs, hfile⟩ := hresults file List.mem_cons_self
    have htask : task q root file = .result r logs := (task_of_undisturbed hq root file).trans hfile
    rw [List.filterMap_cons_some (contribution?_of_result htask)]
    exact .cons ⟨logs, hfile⟩ (ih fun other hother => hresults other (List.mem_cons_of_mem file hother))

/-- What a pool does with the files of a run: it ends, with every file handed out once and in order,
every result taken in once, and never more than two files in flight for each worker. -/
def WorksOff (q : Request) (root : String) (files : List String) (workers : Nat) (sch : Schedule) :
    Prop :=
  ∃ ms p rs,
    Pool.Steps (2 * workers) q.settings q.around (task q root)
      (Pool.start files ((Progress.start q.around).log [Pool.startLog workers])) ms p ∧
    Pool.run workers q.settings q.around sch (task q root) files (.start q.around) =
      .finished p.progress ∧
    (∀ ms', ms' <+: ms →
      (Pool.submits ms').length ≤ (Pool.collects ms').length + 2 * workers) ∧
    Pool.submits ms = files ∧ (Pool.collects ms).Perm files ∧
    ResultsOf q root (Pool.collects ms) rs ∧
    p.progress.ledger = Ledger.empty.addFiles q.settings rs

theorem worksOff (hq : q.Undisturbed)
    (hresults : ∀ file ∈ files, ∃ r logs, analyze q.settings q.tree root file = .result r logs)
    {workers : Nat} (hworkers : 0 < workers) (sch : Schedule) :
    WorksOff q root files workers sch := by
  obtain ⟨ms, p, hsteps, hrun, hall, hperm, -, hledger⟩ :=
    Pool.run_finished hq.quiet (task_ne_interrupted hq root) hworkers sch files hq.going
  have hlimit : workers * inFlightPerWorker = 2 * workers := Nat.mul_comm workers 2
  rw [hlimit] at hsteps
  refine ⟨ms, p, _, hsteps, hrun, fun ms' hms => hsteps.length_submits_le hms, hall, hperm, ?_,
    hledger⟩
  exact resultsOf_contributions hq fun file hfile => hresults file (hperm.mem_iff.mp hfile)

/-- Without a mishap all numbers of workers lead to one report. -/
theorem exists_report (hstart : start q = .ok (root, files, logs)) (hq : q.Undisturbed)
    (hresults : ∀ file ∈ files, ∃ r logs, analyze q.settings q.tree root file = .result r logs) :
    ∃ found, ∀ jobs processors schedule,
      (run { q with jobs, processors, schedule }).report =
        .ok (reportOf q root files found) := by
  obtain ⟨found, logs', hfound⟩ := snapshot_of_start hstart
  refine ⟨found, fun jobs processors schedule => ?_⟩
  have hq' : { q with jobs, processors, schedule }.Undisturbed := ⟨hq.around, hq.fate⟩
  by_cases hworkers : 1 < workerCount processors jobs files.length
  case pos => exact report_of_pool (q := { q with jobs, processors, schedule }) hstart hq' hfound hworkers
  refine report_of_inline (q := { q with jobs, processors, schedule }) hstart hq' hfound
    (Nat.not_lt.mp hworkers) fun file hfile => ?_
  obtain ⟨r, logs, hresult⟩ := hresults file hfile
  exact ⟨r, logs, (task_of_undisturbed hq root file).trans hresult⟩

/-- The report of a run whose files all have results is the one that one worker makes, whatever the
number of workers is and in whatever order they end. The order in which findings come to be sorted
cannot show either, as no two of them share a key. -/
theorem report_eq_of_schedule (hstart : start q = .ok (root, files, logs)) (hq : q.Undisturbed)
    (hresults : ∀ file ∈ files, ∃ r logs, analyze q.settings q.tree root file = .result r logs) :
    (∀ workers, 2 ≤ workers → ∀ sch, WorksOff q root files workers sch) ∧
    ∃ report, (run { q with jobs := some 1 }).report = .ok report ∧
      (∀ jobs processors schedule,
        (run { q with jobs, processors, schedule }).report = .ok report) ∧
      (∀ f ∈ report.findings, ∀ g ∈ report.findings, f.key = g.key → f = g) ∧
      ∀ fs : List Finding, fs.Perm report.findings →
        Sorting.sort (fun a b => a.key.before b.key) fs = report.findings := by
  refine ⟨fun workers hworkers sch => worksOff hq hresults (Nat.lt_of_succ_lt hworkers) sch, ?_⟩
  obtain ⟨found, hrun⟩ := exists_report hstart hq hresults
  have hkey := key_injective_ledgerOf q.settings found (ofRules_contributions hq root files)
  refine ⟨_, hrun (some 1) q.processors q.schedule, hrun, fun f hf g hg => ?_, fun fs hfs => ?_⟩
  · exact hkey f (Ledger.mem_report.mp hf) g (Ledger.mem_report.mp hg)
  · exact Ledger.sort_eq_of_perm_report hkey hfs

/-! ### A project of some files -/

/-- A project with some files and nothing else. -/
def projectOf (entries : List (String × Entry)) : FileTree where
  top := .directory [("p", .directory entries)]
  here := ["p"]
  barred := []

section Projects

variable {entries : List (String × Entry)} {name : String} {octets : Octets}

theorem pathBelow_of_isName (h : Path.IsName name) :
    SourceFile.pathBelow "/p" name = "/p/" ++ name := by
  have hname : Path.ofString name = ⟨.here, [name]⟩ := by
    have htext := Path.ofString_text (p := ⟨.here, [name]⟩) (by simpa using h)
    simpa [Path.text, Anchor.text] using htext
  have hroot : (Path.mk .here []).append (Path.ofString "/p") = ⟨.root, ["p"]⟩ := by decide
  rw [SourceFile.pathBelow, Path.join, List.foldl_cons, List.foldl_cons, List.foldl_nil, hroot, hname]
  simp [Path.append, Path.isAbsolute, Path.text, Anchor.text, String.ext_iff]

theorem octets_projectOf (hname : FileTree.Fits name) (hnull : '\x00' ∉ name.toList)
    (hfile : entries.lookup name = some (.file octets)) :
    (projectOf entries).octets (SourceFile.pathBelow "/p" name) = .ok octets := by
  have htrace : (projectOf entries).trace ("/p/" ++ name) =
      .ok (["p", name], some (.file octets)) := by
    have hne : "/p/" ++ name ≠ "" := by simp
    have hnulls : ¬ ("/p/" ++ name).toList.contains '\x00' = true := by simpa using hnull
    have hsize : ¬ FileTree.maxPathOctets < ("/p/" ++ name).utf8ByteSize := by
      have hfront : "/p/".utf8ByteSize = 3 := by decide
      have hfits : name.utf8ByteSize ≤ 255 := hname.2
      rw [String.utf8ByteSize_append, hfront, FileTree.maxPathOctets]
      omega
    have hpath : FileTree.isAbsolute ("/p/" ++ name) = true := by simp [FileTree.isAbsolute]
    have hsteps : FileTree.steps ("/p/" ++ name) = ["p", name] :=
      FileTree.steps_append_name [[], ['p']] hname.1.toIsName (by simp) (by simp [List.intercalate])
    have hthere : (projectOf entries).top.at? (["p"] ++ [name]) = some (.file octets) :=
      (Entry.at?_snoc rfl name).trans hfile
    rw [FileTree.trace, if_neg hne, if_neg hnulls, if_neg hsize, hpath, if_pos rfl, hsteps]
    refine (FileTree.follow_directory rfl (by decide) rfl [name]).trans ?_
    refine (FileTree.follow_cons_of_fits rfl hname []).trans ?_
    rw [hfile]
    dsimp only
    rw [FileTree.follow, List.nil_append, hthere]
    rfl
  rw [pathBelow_of_isName hname.1.toIsName, FileTree.octets, FileTree.find, htrace]
  rfl

theorem read_projectOf {answer : Except SourceTrouble String} (hname : FileTree.Fits name)
    (hnull : '\x00' ∉ name.toList) (hfile : entries.lookup name = some (.file octets))
    (hdecode : (SourceFile.decode (SourceFile.pathBelow "/p" name) octets).map SourceFile.unified =
      answer) :
    SourceFile.read (projectOf entries) (SourceFile.pathBelow "/p" name) = answer := by
  rw [SourceFile.read, octets_projectOf hname hnull hfile]
  exact hdecode

theorem namesakeLines_of_missing {t : FileTree} {file : String}
    (hmodule : Path.moduleName? file = .ok name) (hoctets : t.octets name = .error .missing) :
    SourceFile.namesakeLines t file = [] := by
  rw [SourceFile.namesakeLines, hmodule]
  dsimp only
  rw [hoctets]

/-- A file shows its own lines in a project in which nothing has the name of its module. -/
theorem namesakeLines_projectOf {file : String} (hmodule : Path.moduleName? file = .ok name)
    (hname : FileTree.Fits name) (hnull : '\x00' ∉ name.toList)
    (habsent : entries.lookup name = none) :
    SourceFile.namesakeLines (projectOf entries) file = [] := by
  have hne : name ≠ "" := fun h => hname.1.ne_empty (h ▸ rfl)
  have hhere : FileTree.isAbsolute name = false :=
    decide_eq_false fun h => hname.1.notMem (List.mem_of_head? h)
  have hloc : (projectOf entries).top.at?
      (if FileTree.isAbsolute name then [] else (projectOf entries).here) =
        some (.directory entries) := by
    rw [hhere]
    rfl
  exact namesakeLines_of_missing hmodule (FileTree.octets_of_absent
    (FileTree.steps_of_isName hname.1.toIsName) ⟨hne, by simpa using hnull⟩
    (hname.2.trans (by decide)) hname hloc habsent)

theorem find_projectOf (entries : List (String × Entry)) :
    (projectOf entries).find "." = .ok (["p"], .directory entries) ∧
      (projectOf entries).find "/p" = .ok (["p"], .directory entries) := by
  have habove : (projectOf entries).trace "/p" = .ok (["p"], some (.directory entries)) := by
    have hsteps : FileTree.steps "/p" = ["p"] := by decide
    rw [FileTree.trace, hsteps, if_neg (by decide), if_neg (by decide), if_neg (by decide)]
    refine (FileTree.follow_directory rfl (by decide) rfl []).trans ?_
    rw [FileTree.follow]
    rfl
  refine ⟨FileTree.find_point rfl, ?_⟩
  rw [FileTree.find, habove]
  rfl

theorem checkRoot_projectOf (htree : q.tree = projectOf entries) (hroot : q.root = ".") :
    checkRoot q = .ok "/p" := by
  have hpath : q.tree.realPath q.root = .ok "/p" := by
    rw [htree, hroot, FileTree.realPath, FileTree.realLocation_of_find (find_projectOf entries).1]
    decide
  have hdirectory : q.tree.isDirectory "/p" = .ok true := by
    rw [htree, FileTree.isDirectory, (find_projectOf entries).2]
    rfl
  have hreadable : q.tree.isReadable "/p" = .ok true := by
    rw [htree, FileTree.isReadable, (find_projectOf entries).2]
    rfl
  rw [checkRoot, hpath]
  simp only [Except.mapError, bind, Except.bind, hdirectory, hreadable]
  rfl

/-- A run over a project starts with the source files that a walk from its directory finds. -/
theorem start_projectOf (htree : q.tree = projectOf entries) (hroot : q.root = ".")
    (all : List String)
    (hall : Sorting.strings ((FileTree.sourcesIn (projectOf entries) defaultExcludedNames ["p"] []
      (.directory entries)).map FileTree.relativeText) = all) :
    start q = .ok ("/p", all.filter (!q.settings.excludes ·),
      (all.filter q.settings.excludes).map excludedLog) := by
  have hpath : (Path.ofString "/p").text = "/p" := by decide
  have hsources : q.tree.sources "/p" defaultExcludedNames = .ok (all, []) := by
    rw [htree, FileTree.sources_of_find (hpath ▸ (find_projectOf entries).2), hall]
  rw [start, checkRoot_projectOf htree hroot]
  simp only [bind, Except.bind, sources, hsources]
  rfl

theorem snapshot_projectOf (excluded : List String) :
    (projectOf entries).snapshot "/p" excluded = .ok (⟨"/p",
      (FileTree.directoriesIn (projectOf entries) excluded ["p"] [] (.directory entries)).map
        FileTree.relativeText⟩, []) := by
  have hpath : (Path.ofString "/p").text = "/p" := by decide
  have hfind : (projectOf entries).find (Path.ofString "/p").text = .ok (["p"], .directory entries) :=
    hpath.symm ▸ (find_projectOf entries).2
  rw [FileTree.snapshot_of_find hfind, hpath]

end Projects

/-! ### A run over two files -/

/-- A run over a file that is empty and one that holds a name. -/
def twoFiles : Request where
  tree := projectOf [("a.py", .file []), ("b.py", .file [0x78, 0x0a])]
  root := "."
  settings := ⟨defaultsSource, [], [], 2, 3, [], [], [], [], true, [], []⟩
  jobs := some 2
  processors := 1
  around := .quiet
  schedule := .together
  fate := fun _ o => o

theorem start_twoFiles : start twoFiles = .ok ("/p", ["a.py", "b.py"], []) :=
  start_projectOf rfl rfl ["a.py", "b.py"] (by decide)

theorem snapshot_twoFiles :
    twoFiles.tree.snapshot "/p" defaultExcludedNames = .ok (⟨"/p", []⟩, []) :=
  snapshot_projectOf defaultExcludedNames

theorem read_twoFiles :
    SourceFile.read twoFiles.tree (SourceFile.pathBelow "/p" "a.py") = .ok "" ∧
      SourceFile.read twoFiles.tree (SourceFile.pathBelow "/p" "b.py") = .ok "x\n" :=
  ⟨read_projectOf (by decide) (by decide) rfl rfl, read_projectOf (by decide) (by decide) rfl rfl⟩

theorem namesakeLines_twoFiles :
    SourceFile.namesakeLines twoFiles.tree "a.py" = [] ∧
      SourceFile.namesakeLines twoFiles.tree "b.py" = [] := by
  have ha : Path.moduleName? "a.py" = .ok "a" := by decide
  have hb : Path.moduleName? "b.py" = .ok "b" := by decide
  exact ⟨namesakeLines_projectOf ha (by decide) (by decide) rfl,
    namesakeLines_projectOf hb (by decide) (by decide) rfl⟩

theorem report_of_two_files :
    ∃ report, (run { twoFiles with jobs := some 1 }).report = .ok report ∧
      (run twoFiles).report = .ok report := by
  have hresults : ∀ file ∈ ["a.py", "b.py"], ∃ r logs,
      analyze twoFiles.settings twoFiles.tree "/p" file = .result r logs := by
    have hread : ∀ file ∈ ["a.py", "b.py"], ∃ text,
        SourceFile.read twoFiles.tree (SourceFile.pathBelow "/p" file) = .ok text := by
      simpa using And.intro ⟨_, read_twoFiles.1⟩ ⟨_, read_twoFiles.2⟩
    intro file hfile
    have hend : FileTree.sourceEnding <:+ file.toList := by
      revert file
      decide
    obtain ⟨name, hname⟩ := Path.moduleName?_ok_of_ending hend
    obtain ⟨text, htext⟩ := hread file hfile
    rcases analyze_result_or_mishap twoFiles.settings hname with ⟨m, hm, -⟩ | ⟨-, h⟩
    · rw [htext] at hm
      cases hm
    · exact h
  obtain ⟨-, report, hinline, hall, -⟩ := report_eq_of_schedule start_twoFiles ⟨rfl, fun _ _ => rfl⟩
    hresults
  exact ⟨report, hinline, hall (some 2) 1 .together⟩

end SourceConventions.Run
