import SourceConventions.Proofs.Run.Determinism

/-!
# Failures of single files

In a pool whatever happens to one file stays with it: it contributes its own findings or one that
says why it has none, and the report is made of the contributions. One worker makes the same report
unless the reading of a file fails in a way that is not foreseen. Then there is no report.
-/

namespace SourceConventions

namespace SourceFile

/-- What is not foreseen in the reading of a file. -/
def mishap? (t : FileTree) (path : String) : Option Mishap :=
  match read t path with
  | .error (.mishap m) => some m
  | _ => none

theorem mishap?_eq_some_iff {t : FileTree} {path : String} {m : Mishap} :
    mishap? t path = some m ↔ read t path = .error (.mishap m) := by
  rw [mishap?]
  split
  next h => simp [h]
  next hnone =>
    refine ⟨fun h => (nomatch h), fun h => ?_⟩
    exact absurd h (hnone m)

end SourceFile

namespace Run

variable {q : Request} {root : String} {files : List String} {logs : List Event}

/-- The paths of the files of a run are those of source files that are not excluded. -/
theorem ending_of_start (hstart : start q = .ok (root, files, logs)) {file : String}
    (hfile : file ∈ files) :
    FileTree.sourceEnding <:+ file.toList ∧ q.settings.excludes file = false := by
  obtain ⟨all, logs', hsources, rfl⟩ := sources_of_start hstart
  obtain ⟨hall, hkept⟩ := List.mem_filter.mp hfile
  exact ⟨FileTree.ending_of_mem_sources hsources hall, by simpa using hkept⟩

/-- What is not foreseen in the reading of one of the files of a run. -/
def mishapOf? (t : FileTree) (root file : String) : Option Mishap :=
  SourceFile.mishap? t (SourceFile.pathBelow root file)

/-- The analysis of a file of a run ends in what is not foreseen in its reading, else it has a
result. -/
theorem task_of_mishapOf? (hstart : start q = .ok (root, files, logs)) (hq : q.Undisturbed)
    {file : String} (hfile : file ∈ files) :
    (∀ m, mishapOf? q.tree root file = some m → task q root file = .mishap m) ∧
      (mishapOf? q.tree root file = none → ∃ r logs, task q root file = .result r logs) := by
  obtain ⟨name, hname⟩ := Path.moduleName?_ok_of_ending (ending_of_start hstart hfile).1
  rw [task_of_undisturbed hq, mishapOf?]
  rcases analyze_result_or_mishap q.settings hname with ⟨m, hread, hm⟩ | ⟨hnone, hresult⟩
  · have hsome := SourceFile.mishap?_eq_some_iff.mpr hread
    rw [hsome]
    exact ⟨fun m' h => Option.some.inj h ▸ hm, fun h => (nomatch h)⟩
  · refine ⟨fun m h => ?_, fun _ => hresult⟩
    exact absurd (SourceFile.mishap?_eq_some_iff.mp h) (hnone m)

theorem exists_contribution (hq : q.Undisturbed) (root file : String) :
    ∃ r, contribution? (task q root) file = some r := by
  cases htask : task q root file with
  | result r logs => exact ⟨r, contribution?_of_result htask⟩
  | mishap m => exact ⟨_, contribution?_of_mishap htask⟩
  | interrupted => exact absurd htask (task_ne_interrupted hq root file)

/-- What regular contributions of the files of a run leave in its ledger, next to what the rules find
about its directories. -/
theorem mem_ledgerOf_contributions (hstart : start q = .ok (root, files, logs))
    {outcome : String → Outcome} (hregular : ∀ file r, contribution? outcome file = some r →
      r.Regular q.settings file) (found : DirectorySnapshot) {f : Finding} :
    f ∈ (ledgerOf q.settings found (files.filterMap (contribution? outcome))).findings ↔
      (∃ file ∈ files, ∃ r, contribution? outcome file = some r ∧
        ∃ g ∈ r.findings, Ledger.settle q.settings g = some f) ∨
      ∃ rule ∈ q.settings.projectRules, ∃ g ∈ projectFindings q.settings found rule,
        Ledger.settle q.settings g = some f := by
  rw [ledgerOf, Ledger.mem_addRules, Ledger.mem_addFiles]
  refine or_congr_left ?_
  constructor
  · rintro (hf | ⟨r, hr, -, hg⟩)
    · cases hf
    · obtain ⟨file, hfile, hcontribution⟩ := List.mem_filterMap.mp hr
      exact ⟨file, hfile, r, hcontribution, hg⟩
  · rintro ⟨file, hfile, r, hcontribution, hg⟩
    refine .inr ⟨r, List.mem_filterMap.mpr ⟨file, hfile, hcontribution⟩, ?_, hg⟩
    rw [(hregular file r hcontribution).path_eq]
    exact (ending_of_start hstart hfile).2

/-- What a run has found: what its files contribute and what the rules find about its directories,
all of it settled. -/
theorem mem_report_contributions (hstart : start q = .ok (root, files, logs)) (hq : q.Undisturbed)
    (found : DirectorySnapshot) {f : Finding} :
    f ∈ (reportOf q root files found).findings ↔
      (∃ file ∈ files, ∃ r, contribution? (task q root) file = some r ∧
        ∃ g ∈ r.findings, Ledger.settle q.settings g = some f) ∨
      ∃ rule ∈ q.settings.projectRules, ∃ g ∈ projectFindings q.settings found rule,
        Ledger.settle q.settings g = some f := by
  rw [reportOf, Ledger.mem_report]
  exact mem_ledgerOf_contributions hstart (fun _ _ => contribution?_regular hq) found

/-- The mishap that keeps a run from a report: with one worker the first one, in a pool none. -/
def endingMishap? (q : Request) (root : String) (files : List String) : Option Mishap :=
  if 1 < workerCount q.processors q.jobs files.length then none
  else files.findSome? (mishapOf? q.tree root)

/-- The report of a run is made of what its files contribute, unless a mishap ends it. -/
theorem report_eq (hstart : start q = .ok (root, files, logs)) (hq : q.Undisturbed)
    {found : DirectorySnapshot} {logs' : List LogEntry}
    (hfound : q.tree.snapshot root defaultExcludedNames = .ok (found, logs')) :
    (run q).report =
      match endingMishap? q root files with
      | some m => .error (.mishap m)
      | none => .ok (reportOf q root files found) := by
  rw [endingMishap?]
  by_cases hworkers : 1 < workerCount q.processors q.jobs files.length
  case pos =>
    rw [if_pos hworkers]
    exact report_of_pool hstart hq hfound hworkers
  rw [if_neg hworkers]
  rw [Nat.not_lt] at hworkers
  cases hfirst : files.findSome? (mishapOf? q.tree root) with
  | none =>
    rw [List.findSome?_eq_none_iff] at hfirst
    refine report_of_inline hstart hq hfound hworkers fun file hfile => ?_
    exact (task_of_mishapOf? hstart hq hfile).2 (hfirst file hfile)
  | some m =>
    obtain ⟨done, file, rest, hsplit, hm, hdone⟩ := List.findSome?_eq_some_iff.mp hfirst
    have hfile : file ∈ files := hsplit ▸ List.mem_append_right done List.mem_cons_self
    refine report_of_inline_mishap hstart hq hworkers hsplit (fun other hother => ?_)
      ((task_of_mishapOf? hstart hq hfile).1 m hm)
    have hin : other ∈ files := hsplit ▸ List.mem_append_left _ hother
    exact (task_of_mishapOf? hstart hq hin).2 (hdone other hother)

end Run

end SourceConventions
