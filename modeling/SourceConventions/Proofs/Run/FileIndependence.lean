import SourceConventions.Proofs.Run.Cancellation
import SourceConventions.Proofs.Run.Independence

/-!
# What one file takes from another in a run

A file shows in a report by the findings about it and by nothing else, unless its lines are shown in
place of those of another file. Globs take away the findings about the files that they exclude and
leave all others as they are.
-/

namespace SourceConventions

/-- A finding about what is in a file: any of its path but those about directories. -/
def Finding.isAbout (file : String) (f : Finding) : Bool :=
  f.path == file && f.rule != Rule.requiredDirectory.id

theorem Analysis.ofText_congr {s : Settings} {path text : String} {lines lines' : List (List Char)}
    (h : Syntax.programOf lines text = Syntax.programOf lines' text) :
    ofText s path lines text = ofText s path lines' text := by
  rw [ofText, ofText, h]

theorem Rules.requiredDirectory_congr {required : List String} {found found' : DirectorySnapshot}
    (h : ∀ d, d ∈ found.directories ↔ d ∈ found'.directories) :
    requiredDirectory required found = requiredDirectory required found' := by
  have hhas (d : String) : found.has d = found'.has d := by
    rw [Bool.eq_iff_iff, DirectorySnapshot.has, DirectorySnapshot.has, List.contains_iff_mem,
      List.contains_iff_mem, h]
  simp only [requiredDirectory, hhas]

namespace Run

variable {q q' : Request} {root : String} {files files' : List String} {logs logs' : List Event}

/-- What a report tells of a file that is worked on is about that file. -/
theorem isAbout_of_regular {s : Settings} {file : String} {r : FileResult} (hr : r.Regular s file)
    {f g : Finding} (hg : g ∈ r.findings) (hsettle : Ledger.settle s g = some f) :
    f.path = file ∧ f.rule ≠ Rule.requiredDirectory.id := by
  obtain ⟨hrule, hpath⟩ := Ledger.settle_keeps hsettle
  obtain ⟨hfile, rule, hscope, hof⟩ := hr.mem_rule hg
  refine ⟨hpath.trans hfile, fun h => hscope ?_⟩
  have heq : rule = .requiredDirectory := Rule.id_injective (hof.symm.trans (hrule.symm.trans h))
  rw [heq]
  rfl

theorem isAbout_of_contributed (hq : q.Undisturbed) {file : String} {r : FileResult}
    (hr : contribution? (task q root) file = some r) {f g : Finding} (hg : g ∈ r.findings)
    (hsettle : Ledger.settle q.settings g = some f) :
    f.path = file ∧ f.rule ≠ Rule.requiredDirectory.id :=
  isAbout_of_regular (contribution?_regular hq hr) hg hsettle

theorem rule_of_projectFinding {s : Settings} {found : DirectorySnapshot} {rule : Rule}
    {f g : Finding} (hg : g ∈ projectFindings s found rule) (hsettle : Ledger.settle s g = some f) :
    f.rule = Rule.requiredDirectory.id := by
  cases rule with
  | requiredDirectory =>
    exact (Ledger.settle_keeps hsettle).1.trans (Rules.requiredDirectory_ofRule hg).rule
  | _ => cases hg

theorem map_path_contributions {s : Settings} {outcome : String → Outcome}
    (hregular : ∀ file r, contribution? outcome file = some r → r.Regular s file)
    (hsome : ∀ file, ∃ r, contribution? outcome file = some r) (files : List String) :
    (files.filterMap (contribution? outcome)).map FileResult.path = files := by
  induction files with
  | nil => rfl
  | cons file rest ih =>
    obtain ⟨r, hr⟩ := hsome file
    rw [List.filterMap_cons_some hr, List.map_cons, ih, (hregular file r hr).path_eq]

/-- Each file of a run that has a regular contribution is counted. -/
theorem files_ledgerOf_contributions (hstart : start q = .ok (root, files, logs))
    {outcome : String → Outcome}
    (hregular : ∀ file r, contribution? outcome file = some r → r.Regular q.settings file)
    (hsome : ∀ file, ∃ r, contribution? outcome file = some r) (found : DirectorySnapshot) :
    (ledgerOf q.settings found (files.filterMap (contribution? outcome))).files = files.length := by
  have hall : files.countP (fun file => !q.settings.excludes file) = files.length := by
    refine List.countP_eq_length.mpr fun file hfile => ?_
    rw [(ending_of_start hstart hfile).2]
    rfl
  rw [← map_path_contributions hregular hsome files, List.countP_map] at hall
  rw [ledgerOf, Ledger.files_addRules, Ledger.files_addFiles]
  conv_rhs => rw [← map_path_contributions hregular hsome files]
  exact (Nat.zero_add _).trans hall

/-- Each file of a run is counted in its report. -/
theorem files_reportOf (hstart : start q = .ok (root, files, logs)) (hq : q.Undisturbed)
    (found : DirectorySnapshot) : (reportOf q root files found).files = files.length :=
  files_ledgerOf_contributions hstart (fun _ _ => contribution?_regular hq) (exists_contribution hq root)
    found

/-- A run has a report if all of its files can be read. -/
theorem exists_report_of_read (hstart : start q = .ok (root, files, logs)) (hq : q.Undisturbed)
    (hread : ∀ file ∈ files, ∃ text,
      SourceFile.read q.tree (SourceFile.pathBelow root file) = .ok text) :
    ∃ r, (run q).report = .ok r := by
  obtain ⟨found, logs', hfound⟩ := snapshot_of_start hstart
  have hnone : endingMishap? q root files = none := by
    rw [endingMishap?]
    split
    case isTrue => rfl
    case isFalse =>
      refine List.findSome?_eq_none_iff.mpr fun file hfile => ?_
      obtain ⟨text, htext⟩ := hread file hfile
      rw [mishapOf?, SourceFile.mishap?, htext]
  rw [report_eq hstart hq hfound, hnone]
  exact ⟨_, rfl⟩

/-! ### Projects that differ in one file -/

/-- Two projects that differ in one file only: in what is read of it or in whether it is there. -/
structure AlikeBut (file root : String) (t t' : FileTree) (files files' : List String) : Prop where
  discovered : ∀ other, other ≠ file → (other ∈ files ↔ other ∈ files')
  read : ∀ other ∈ files, other ≠ file →
    SourceFile.read t (SourceFile.pathBelow root other) =
      SourceFile.read t' (SourceFile.pathBelow root other)
  directories : ∀ found found' logs logs',
    t.snapshot root defaultExcludedNames = .ok (found, logs) →
    t'.snapshot root defaultExcludedNames = .ok (found', logs') →
    ∀ d, d ∈ found.directories ↔ d ∈ found'.directories

/-- What stands for the lines of a file in two projects does not change what its text is read as. -/
def ShownAlike (t t' : FileTree) (root file : String) : Prop :=
  ∀ text, SourceFile.read t (SourceFile.pathBelow root file) = .ok text →
    Syntax.programOf (SourceFile.namesakeLines t file) text =
      Syntax.programOf (SourceFile.namesakeLines t' file) text

/-- A file of which the same is read, and read as the same, contributes the same. -/
theorem contribution?_congr (hstart : start q = .ok (root, files, logs)) (hq : q.Undisturbed)
    (hq' : q'.Undisturbed) {file : String}
    (hsettings : ∀ lines text, Analysis.ofText q'.settings file lines text =
      Analysis.ofText q.settings file lines text) (hfile : file ∈ files)
    (hread : SourceFile.read q.tree (SourceFile.pathBelow root file) =
      SourceFile.read q'.tree (SourceFile.pathBelow root file))
    (hshown : ShownAlike q.tree q'.tree root file) :
    contribution? (task q root) file = contribution? (task q' root) file := by
  obtain ⟨name, hname⟩ := Path.moduleName?_ok_of_ending (ending_of_start hstart hfile).1
  cases htext : SourceFile.read q.tree (SourceFile.pathBelow root file) with
  | error e =>
    rw [contribution?_of_trouble hq htext, contribution?_of_trouble hq' (hread.symm.trans htext)]
  | ok text =>
    rw [contribution?_of_text hq hname htext,
      contribution?_of_text hq' hname (hread.symm.trans htext),
      Analysis.ofText_congr (hshown text htext), hsettings]

/-- What reports of projects that differ in one file tell of all else is the same. -/
theorem filter_reportOf_congr {file : String} (hstart : start q = .ok (root, files, logs))
    (hstart' : start q' = .ok (root, files', logs')) (hq : q.Undisturbed) (hq' : q'.Undisturbed)
    (hsettings : q'.settings = q.settings)
    (halike : AlikeBut file root q.tree q'.tree files files')
    (hshown : ∀ other ∈ files, other ≠ file → ShownAlike q.tree q'.tree root other)
    {found found' : DirectorySnapshot}
    (hfound : ∀ d, d ∈ found.directories ↔ d ∈ found'.directories) :
    (reportOf q root files found).findings.filter (!·.isAbout file) =
      (reportOf q' root files' found').findings.filter (!·.isAbout file) := by
  have hcontribution (other : String) (hother : other ∈ files) (hne : other ≠ file) :
      contribution? (task q root) other = contribution? (task q' root) other :=
    contribution?_congr hstart hq hq' (fun _ _ => by rw [hsettings]) hother
      (halike.read other hother hne) (hshown other hother hne)
  have hproject (rule : Rule) : projectFindings q.settings found' rule =
      projectFindings q.settings found rule := by
    cases rule with
    | requiredDirectory => exact (Rules.requiredDirectory_congr hfound).symm
    | _ => rfl
  refine Ledger.filter_report_eq nodup_ledgerOf nodup_ledgerOf (fun f hf => ?_)
    (key_injective_ledgerOf q.settings found (ofRules_contributions hq root files))
  have hiff : f ∈ (reportOf q root files found).findings ↔
      f ∈ (reportOf q' root files' found').findings := by
    rw [mem_report_contributions hstart hq, mem_report_contributions hstart' hq', hsettings]
    simp only [hproject]
    refine or_congr_left ?_
    -- A finding of the file itself is not looked at, so that it is one of the other files.
    have hother {p : Request} (hp : p.Undisturbed) (hsame : p.settings = q.settings)
        {other : String} {r : FileResult} (hr : contribution? (task p root) other = some r)
        {g : Finding} (hg : g ∈ r.findings) (hsettle : Ledger.settle q.settings g = some f) :
        other ≠ file := by
      rintro rfl
      obtain ⟨hpath, hrule⟩ := isAbout_of_contributed hp hr hg (hsame.symm ▸ hsettle)
      simp [Finding.isAbout, hpath, hrule] at hf
    constructor
    · rintro ⟨other, hin, r, hr, g, hg, hsettle⟩
      have hne := hother hq rfl hr hg hsettle
      exact ⟨other, (halike.discovered other hne).mp hin, r, hcontribution other hin hne ▸ hr, g, hg,
        hsettle⟩
    · rintro ⟨other, hin, r, hr, g, hg, hsettle⟩
      have hne := hother hq' hsettings hr hg hsettle
      have hin' := (halike.discovered other hne).mpr hin
      exact ⟨other, hin', r, (hcontribution other hin' hne).symm ▸ hr, g, hg, hsettle⟩
  rwa [reportOf, reportOf, Ledger.mem_report, Ledger.mem_report] at hiff

/-! ### More globs -/

/-- Settings with other globs, and with the table that they are made from. -/
def excluding (table : SettingTable) (globs : List String) (s : Settings) : Settings :=
  { s with table, exclude := globs }

section MoreGlobs

variable {table : SettingTable} {globs : List String}

theorem excludes_excluding {s : Settings} (hmore : s.exclude ⊆ globs) {path : String}
    (h : s.excludes path = true) : (excluding table globs s).excludes path = true := by
  obtain ⟨glob, hglob, hcovers⟩ := List.any_eq_true.mp h
  exact List.any_eq_true.mpr ⟨glob, hmore hglob, hcovers⟩

theorem checkRoot_of_start (hstart : start q = .ok (root, files, logs)) : checkRoot q = .ok root := by
  rw [start] at hstart
  cases hroot : checkRoot q with
  | error f => rw [hroot] at hstart; cases hstart
  | ok root' =>
    rw [hroot] at hstart
    change (sources q root').map (root', ·) = .ok (root, files, logs) at hstart
    cases hsources : sources q root' with
    | error f => rw [hsources] at hstart; cases hstart
    | ok answer => rw [hsources] at hstart; cases hstart; rfl

theorem start_of_sources (hroot : checkRoot q = .ok root) {all : List String}
    {logs' : List LogEntry} (hall : q.tree.sources root defaultExcludedNames = .ok (all, logs')) :
    ∃ logs, start q = .ok (root, all.filter (!q.settings.excludes ·), logs) := by
  rw [start, hroot]
  change ∃ logs, (sources q root).map (root, ·) = _
  rw [sources, hall]
  exact ⟨_, rfl⟩

/-- The files of a run are those of a run with fewer globs that are not excluded. -/
theorem start_excluding (table : SettingTable) (hmore : q.settings.exclude ⊆ globs)
    (hstart : start q = .ok (root, files, logs)) :
    ∃ logs', start { q with settings := excluding table globs q.settings } =
      .ok (root, files.filter (!(excluding table globs q.settings).excludes ·), logs') := by
  obtain ⟨all, logs', hall, rfl⟩ := sources_of_start hstart
  have hfiles : (all.filter (!q.settings.excludes ·)).filter
      (!(excluding table globs q.settings).excludes ·) =
      all.filter (!(excluding table globs q.settings).excludes ·) := by
    rw [List.filter_filter]
    refine List.filter_congr fun path _ => ?_
    cases hpath : q.settings.excludes path with
    | false => simp
    | true => simp [excludes_excluding hmore hpath]
  rw [hfiles]
  have hroot : checkRoot { q with settings := excluding table globs q.settings } = .ok root :=
    (checkRoot_of_start hstart :)
  exact start_of_sources hroot hall

theorem ofText_excluding (s : Settings) (path : String) (lines : List (List Char))
    (text : String) : Analysis.ofText (excluding table globs s) path lines text =
      Analysis.ofText s path lines text := by
  have hfindings : Analysis.findingsOf (excluding table globs s) = Analysis.findingsOf s := by
    funext path facts rule
    cases rule <;> rfl
  have hjudge : Analysis.judge (excluding table globs s) = Analysis.judge s := by
    funext path facts
    rw [Analysis.judge, Analysis.judge, hfindings]
    rfl
  have htree : Analysis.ofTree (excluding table globs s) = Analysis.ofTree s := by
    funext path text tree
    rw [Analysis.ofTree, Analysis.ofTree, hjudge]
    rfl
  rw [Analysis.ofText, Analysis.ofText, htree]

/-- What a file contributes does not depend on the globs. -/
theorem contribution?_excluding (table : SettingTable) (globs : List String)
    (hstart : start q = .ok (root, files, logs)) (hq : q.Undisturbed) {file : String}
    (hfile : file ∈ files) :
    contribution? (task q root) file =
      contribution? (task { q with settings := excluding table globs q.settings } root) file := by
  have hq' : { q with settings := excluding table globs q.settings }.Undisturbed :=
    ⟨hq.around, hq.fate⟩
  refine contribution?_congr hstart hq hq' ?_ hfile rfl fun _ _ => rfl
  exact ofText_excluding q.settings file

/-- More globs leave of a report what is not about files that they exclude. -/
theorem findings_reportOf_excluding (hmore : q.settings.exclude ⊆ globs)
    (hstart : start q = .ok (root, files, logs)) (hq : q.Undisturbed) (found : DirectorySnapshot) :
    (reportOf { q with settings := excluding table globs q.settings } root
        (files.filter (!(excluding table globs q.settings).excludes ·)) found).findings =
      (reportOf q root files found).findings.filter fun f =>
        !(excluding table globs q.settings).excludes f.path ||
          f.rule == Rule.requiredDirectory.id := by
  set s' := excluding table globs q.settings with hs'
  obtain ⟨logs', hstart'⟩ := start_excluding table hmore hstart
  have hq' : { q with settings := s' }.Undisturbed := ⟨hq.around, hq.fate⟩
  have hmem := fun f => mem_report_contributions (f := f) hstart hq found
  have hmem' := fun f => mem_report_contributions (f := f) hstart' hq' found
  -- All that is left is about files that are not excluded, or about directories.
  have hkept : ∀ f ∈ (reportOf { q with settings := s' } root
      (files.filter (!s'.excludes ·)) found).findings,
      (!s'.excludes f.path || f.rule == Rule.requiredDirectory.id) = true := by
    intro f hf
    rcases (hmem' f).mp hf with ⟨file, hfile, r, hr, g, hg, hsettle⟩ | ⟨rule, -, g, hg, hsettle⟩
    · have hpath := (isAbout_of_contributed hq' hr hg hsettle).1
      have hin := (List.mem_filter.mp hfile).2
      rw [hpath, hin, Bool.true_or]
    · rw [rule_of_projectFinding hg hsettle, beq_self_eq_true, Bool.or_true]
  rw [← List.filter_eq_self.mpr hkept]
  refine (Ledger.filter_report_eq nodup_ledgerOf nodup_ledgerOf (fun f hf => ?_)
    (key_injective_ledgerOf q.settings found (ofRules_contributions hq root files))).symm
  have hiff : f ∈ (reportOf q root files found).findings ↔
      f ∈ (reportOf { q with settings := s' } root
        (files.filter (!s'.excludes ·)) found).findings := by
    rw [hmem, hmem']
    refine or_congr_left ?_
    constructor
    · rintro ⟨file, hfile, r, hr, g, hg, hsettle⟩
      obtain ⟨hpath, hrule⟩ := isAbout_of_contributed hq hr hg hsettle
      have hin : (!s'.excludes file) = true := by
        rw [← hpath]
        simpa [hrule] using hf
      have hr' := (contribution?_excluding table globs hstart hq hfile).symm.trans hr
      exact ⟨file, List.mem_filter.mpr ⟨hfile, hin⟩, r, hr', g, hg, hsettle⟩
    · rintro ⟨file, hfile, r, hr, g, hg, hsettle⟩
      have hin := (List.mem_filter.mp hfile).1
      exact ⟨file, hin, r, (contribution?_excluding table globs hstart hq hin).trans hr, g, hg, hsettle⟩
  rwa [reportOf, reportOf, Ledger.mem_report, Ledger.mem_report] at hiff

end MoreGlobs

/-- A file shows in a report by the findings about it and by nothing else, as long as its lines are
not shown in place of those of another file. More globs take away the findings about the files that
they exclude, and these files from the count, and leave all else as it is. Whatever goes on around a
run, this holds if it has a report. -/
theorem report_of_other_files (hstart : start q = .ok (root, files, logs)) (hq : q.Faithful)
    {r : Report} (hr : (run q).report = .ok r) :
    (∀ q' files' logs' file r', start q' = .ok (root, files', logs') → q'.Faithful →
      q'.settings = q.settings → (run q').report = .ok r' →
      AlikeBut file root q.tree q'.tree files files' →
      (∀ other ∈ files, other ≠ file → ShownAlike q.tree q'.tree root other) →
        r.findings.filter (!·.isAbout file) = r'.findings.filter (!·.isAbout file)) ∧
    ∀ table globs r', q.settings.exclude ⊆ globs →
      (run { q with settings := excluding table globs q.settings }).report = .ok r' →
        r'.findings = r.findings.filter (fun f =>
          !(excluding table globs q.settings).excludes f.path ||
            f.rule == Rule.requiredDirectory.id) ∧
        r'.files + files.countP (excluding table globs q.settings).excludes = r.files := by
  obtain ⟨found, logs₁, hfound⟩ := snapshot_of_start hstart
  have hquiet : start { q with around := .quiet } = .ok (root, files, logs) := hstart
  rw [eq_reportOf hstart hq hfound hr]
  refine ⟨?_, ?_⟩
  · intro q' files' logs' file r' hstart' hq' hsettings hr' halike hshown
    obtain ⟨found', logs₂, hfound'⟩ := snapshot_of_start hstart'
    have hquiet' : start { q' with around := .quiet } = .ok (root, files', logs') := hstart'
    rw [eq_reportOf hstart' hq' hfound' hr']
    exact filter_reportOf_congr hquiet hquiet' hq.undisturbed hq'.undisturbed hsettings halike hshown
      (halike.directories found found' logs₁ logs₂ hfound hfound')
  · intro table globs r' hmore hr'
    obtain ⟨logs', hstart'⟩ := start_excluding table hmore hstart
    have hq' : { q with settings := excluding table globs q.settings }.Faithful := hq
    have hquiet' : start { q with settings := excluding table globs q.settings, around := .quiet } =
        .ok (root, files.filter (!(excluding table globs q.settings).excludes ·), logs') := hstart'
    rw [eq_reportOf hstart' hq' hfound hr']
    refine ⟨findings_reportOf_excluding (q := { q with around := .quiet }) hmore hquiet
      hq.undisturbed found, ?_⟩
    have hall : (reportOf q root files found).files = files.length :=
      files_reportOf hquiet hq.undisturbed found
    have hkept : (reportOf { q with settings := excluding table globs q.settings } root
        (files.filter (!(excluding table globs q.settings).excludes ·)) found).files =
        (files.filter (!(excluding table globs q.settings).excludes ·)).length :=
      files_reportOf hquiet' hq'.undisturbed found
    rw [hall, hkept, ← List.countP_eq_length_filter, Nat.add_comm,
      List.length_eq_countP_add_countP (excluding table globs q.settings).excludes]
    simp only [Bool.not_eq_true, Bool.decide_eq_false]

/-- The run over two files without the first one of them. -/
def secondFile : Request :=
  { twoFiles with tree := projectOf [("b.py", .file [0x78, 0x0a])] }

theorem start_secondFile : start secondFile = .ok ("/p", ["b.py"], []) :=
  start_projectOf rfl rfl ["b.py"] (by decide)

theorem snapshot_secondFile :
    secondFile.tree.snapshot "/p" defaultExcludedNames = .ok (⟨"/p", []⟩, []) :=
  snapshot_projectOf defaultExcludedNames

theorem report_without_first_file :
    ∃ r r' s, (run twoFiles).report = .ok r ∧ (run secondFile).report = .ok r' ∧
      (run { twoFiles with
        settings := excluding twoFiles.settings.table ["a.py"] twoFiles.settings }).report = .ok s ∧
      r.findings.filter (!·.isAbout "a.py") = r'.findings.filter (!·.isAbout "a.py") ∧
      s.files + 1 = r.files := by
  obtain ⟨ha, hb⟩ := read_twoFiles
  have hb' : SourceFile.read secondFile.tree (SourceFile.pathBelow "/p" "b.py") = .ok "x\n" :=
    read_projectOf (by decide) (by decide) rfl rfl
  have hname : Path.moduleName? "b.py" = .ok "b" := by decide
  have hown : SourceFile.namesakeLines secondFile.tree "b.py" = [] :=
    namesakeLines_projectOf hname (by decide) (by decide) rfl
  have hq : twoFiles.Undisturbed := ⟨rfl, fun _ _ => rfl⟩
  have hq' : secondFile.Undisturbed := ⟨rfl, fun _ _ => rfl⟩
  have halike : AlikeBut "a.py" "/p" twoFiles.tree secondFile.tree ["a.py", "b.py"] ["b.py"] := by
    refine ⟨fun other hother => by simp [hother], fun other hin hother => ?_, ?_⟩
    · obtain rfl : other = "b.py" := by simpa [hother] using hin
      exact hb.trans hb'.symm
    · intro found found' logs logs' hfound hfound' d
      rw [snapshot_twoFiles] at hfound
      rw [snapshot_secondFile] at hfound'
      cases hfound
      cases hfound'
      rfl
  have hshown : ∀ other ∈ ["a.py", "b.py"], other ≠ "a.py" →
      ShownAlike twoFiles.tree secondFile.tree "/p" other := by
    intro other hin hother text _
    obtain rfl : other = "b.py" := by simpa [hother] using hin
    rw [namesakeLines_twoFiles.2, hown]
  obtain ⟨r, hr⟩ := exists_report_of_read start_twoFiles hq
    (by simpa using And.intro ⟨_, ha⟩ ⟨_, hb⟩)
  obtain ⟨r', hr'⟩ := exists_report_of_read start_secondFile hq' (by simpa using ⟨_, hb'⟩)
  have hmore : twoFiles.settings.exclude ⊆ ["a.py"] := List.nil_subset _
  obtain ⟨logs, hstart⟩ :=
    start_excluding twoFiles.settings.table hmore start_twoFiles
  have hcovered : ["a.py", "b.py"].countP
      (excluding twoFiles.settings.table ["a.py"] twoFiles.settings).excludes = 1 := by
    decide
  obtain ⟨s, hs⟩ := exists_report_of_read hstart ⟨rfl, fun _ _ => rfl⟩ fun file hfile => by
    have hin := (List.mem_filter.mp hfile).1
    rcases List.mem_pair.mp hin with rfl | rfl
    · exact ⟨_, ha⟩
    · exact ⟨_, hb⟩
  obtain ⟨hothers, hglobs⟩ := report_of_other_files start_twoFiles hq.fate hr
  refine ⟨r, r', s, hr, hr', hs, hothers secondFile _ _ "a.py" r' start_secondFile hq'.fate rfl hr'
    halike hshown, ?_⟩
  have hfewer := (hglobs _ _ s hmore hs).2
  rwa [hcovered] at hfewer

end Run

end SourceConventions
