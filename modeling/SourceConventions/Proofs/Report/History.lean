import SourceConventions.Proofs.Report.Contents

/-!
# Histories of a ledger

A ledger is asked to take in results and for reports, in any order. Each report tells of all that
has been taken in so far and of nothing else, and that it is asked for does not show in those that
follow.
-/

namespace SourceConventions

namespace Report

/-- Each finding counts for one severity. -/
theorem errors_add_warnings_add_infos (r : Report) :
    r.errors + r.warnings + r.infos = r.findings.length := by
  obtain ⟨findings, files⟩ := r
  simp only [errors, warnings, infos, count]
  induction findings with
  | nil => rfl
  | cons f rest ih =>
    simp only [List.countP_cons, List.length_cons, ← ih]
    cases f.severity <;> simp +arith

theorem hasErrors_iff (r : Report) : r.hasErrors = true ↔ ∃ f ∈ r.findings, f.severity = .error := by
  simp only [hasErrors, errors, count, decide_eq_true_eq, List.countP_pos_iff, beq_iff_eq]

theorem exitCode_of_error {r : Report} (h : ∃ f ∈ r.findings, f.severity = .error) :
    r.exitCode = 1 := if_pos (r.hasErrors_iff.mpr h)

theorem exitCode_of_no_error {r : Report} (h : ∀ f ∈ r.findings, f.severity ≠ .error) :
    r.exitCode = 0 := by
  refine if_neg fun herrors => ?_
  obtain ⟨f, hf, herror⟩ := r.hasErrors_iff.mp herrors
  exact h f hf herror

end Report

namespace Ledger

/-- What a ledger can be asked. -/
inductive Call where
  | addFile (r : FileResult)
  | addProject (fs : List Finding)
  | report
  deriving DecidableEq, Repr

/-- The ledger after a call. -/
def after (s : Settings) (l : Ledger) : Call → Ledger
  | .addFile r => l.addFile s r
  | .addProject fs => l.addProject s fs
  | .report => l

/-- The ledger after calls, one after the other. -/
def afterAll (s : Settings) (calls : List Call) (l : Ledger) : Ledger := calls.foldl (after s) l

/-- The reports that calls are answered with. -/
def answers (s : Settings) (l : Ledger) : List Call → List Report
  | [] => []
  | .report :: rest => l.report :: answers s l rest
  | call :: rest => answers s (l.after s call) rest

/-- The calls in front of each call for a report; `past` are those in front of all of them. -/
def pasts (past : List Call) : List Call → List (List Call)
  | [] => []
  | .report :: rest => past :: pasts (past ++ [.report]) rest
  | call :: rest => pasts (past ++ [call]) rest

/-- A finding has been added: with a file that is not excluded, or as one of the project. -/
def Added (s : Settings) (calls : List Call) (g : Finding) : Prop :=
  (∃ r, Call.addFile r ∈ calls ∧ s.excludes r.path = false ∧ g ∈ r.findings) ∨
    ∃ fs, Call.addProject fs ∈ calls ∧ g ∈ fs

/-- A file has been added that is not excluded. -/
def countsFile (s : Settings) : Call → Bool
  | .addFile r => !s.excludes r.path
  | _ => false

/-- How a finding is reported: if its rule is on, with the severity that the settings give the rule,
or else its own, and one level less if it is demoted. -/
def ReportedAs (s : Settings) (g f : Finding) : Prop :=
  s.isEnabled g.rule = true ∧ f.demoted = false ∧
    f.severity =
      (if g.demoted then ((s.severity? g.rule).getD g.severity).lowered
        else (s.severity? g.rule).getD g.severity) ∧
    f = { g with severity := f.severity, demoted := f.demoted }

/-- What a report tells of the calls that went before it. -/
structure Tells (s : Settings) (calls : List Call) (r : Report) : Prop where
  mem_iff : ∀ f, f ∈ r.findings ↔ ∃ g, Added s calls g ∧ ReportedAs s g f
  nodup : r.findings.Nodup
  ordered : r.findings.Pairwise fun f g => f.key.parts ≤ g.key.parts
  files : r.files = calls.countP (countsFile s)
  total : r.errors + r.warnings + r.infos = r.findings.length
  exitCode : r.exitCode = 1 ∧ (∃ f ∈ r.findings, f.severity = .error) ∨
    r.exitCode = 0 ∧ ∀ f ∈ r.findings, f.severity ≠ .error

variable {s : Settings} {l : Ledger} {calls : List Call} {f g : Finding}

theorem settle_eq_some_iff : settle s g = some f ↔ ReportedAs s g f := by
  rw [settle, ReportedAs]
  by_cases hon : s.isEnabled g.rule
  case neg => simp [hon]
  rw [if_pos hon, Option.some.injEq]
  constructor
  · rintro rfl
    exact ⟨hon, rfl, by cases g.demoted <;> rfl, rfl⟩
  · rintro ⟨-, hdemoted, hseverity, hf⟩
    rw [hf, hdemoted, hseverity]
    rfl

/-! ### What calls leave in a ledger -/

@[simp] theorem afterAll_nil (l : Ledger) : l.afterAll s [] = l := rfl

@[simp] theorem afterAll_cons (call : Call) (rest : List Call) (l : Ledger) :
    l.afterAll s (call :: rest) = (l.after s call).afterAll s rest := rfl

theorem afterAll_append (before rest : List Call) (l : Ledger) :
    l.afterAll s (before ++ rest) = (l.afterAll s before).afterAll s rest := List.foldl_append ..

theorem nodup_after (call : Call) (h : l.findings.Nodup) : (l.after s call).findings.Nodup := by
  cases call with
  | addFile r => exact nodup_addFile h
  | addProject fs => exact nodup_addProject h
  | report => exact h

theorem nodup_afterAll (calls : List Call) (h : l.findings.Nodup) :
    (l.afterAll s calls).findings.Nodup := by
  induction calls generalizing l with
  | nil => exact h
  | cons call rest ih => exact ih (nodup_after call h)

theorem mem_after (call : Call) :
    f ∈ (l.after s call).findings ↔
      f ∈ l.findings ∨ ∃ g, Added s [call] g ∧ ReportedAs s g f := by
  simp only [← settle_eq_some_iff, Added, List.mem_singleton]
  cases call with
  | addFile r =>
    rw [after, mem_addFile]
    simp [and_assoc]
  | addProject fs =>
    rw [after, mem_addProject]
    simp
  | report => simp [after]

theorem added_cons (call : Call) (rest : List Call) :
    Added s (call :: rest) g ↔ Added s [call] g ∨ Added s rest g := by
  simp only [Added, List.mem_cons, or_and_right, exists_or, List.not_mem_nil, or_false]
  exact or_or_or_comm

theorem mem_afterAll (calls : List Call) :
    f ∈ (l.afterAll s calls).findings ↔
      f ∈ l.findings ∨ ∃ g, Added s calls g ∧ ReportedAs s g f := by
  induction calls generalizing l with
  | nil => simp [Added]
  | cons call rest ih =>
    rw [afterAll_cons, ih, mem_after, or_assoc]
    simp only [added_cons call rest, or_and_right, exists_or]

theorem files_after (call : Call) (l : Ledger) :
    (l.after s call).files = l.files + if countsFile s call then 1 else 0 := by
  cases call with
  | addFile r => cases he : s.excludes r.path <;> simp [after, addFile, countsFile, he]
  | addProject fs => rfl
  | report => rfl

theorem files_afterAll (calls : List Call) (l : Ledger) :
    (l.afterAll s calls).files = l.files + calls.countP (countsFile s) := by
  induction calls generalizing l with
  | nil => rfl
  | cons call rest ih =>
    rw [afterAll_cons, ih, files_after, List.countP_cons]
    omega

/-! ### Reports -/

theorem pairwise_report (l : Ledger) :
    l.report.findings.Pairwise fun f g => f.key.parts ≤ g.key.parts :=
  Sorting.pairwise_sort Finding.before_iff_parts l.findings

theorem nodup_report (h : l.findings.Nodup) : l.report.findings.Nodup :=
  (Sorting.sort_perm _ _).nodup_iff.mpr h

theorem tells_report (s : Settings) (calls : List Call) :
    Tells s calls (empty.afterAll s calls).report where
  mem_iff f := by
    rw [mem_report, mem_afterAll]
    simp [empty]
  nodup := nodup_report (nodup_afterAll calls .nil)
  ordered := pairwise_report _
  files := by
    have h := files_afterAll (s := s) calls empty
    rwa [show empty.files = 0 from rfl, Nat.zero_add] at h
  total := Report.errors_add_warnings_add_infos _
  exitCode := by
    by_cases herror : ∃ f ∈ (empty.afterAll s calls).report.findings, f.severity = .error
    · exact .inl ⟨Report.exitCode_of_error herror, herror⟩
    · have hnone := fun f hf hf' => herror ⟨f, hf, hf'⟩
      exact .inr ⟨Report.exitCode_of_no_error hnone, hnone⟩

theorem tells_answers (past calls : List Call) :
    List.Forall₂ (Tells s) (pasts past calls) (answers s (empty.afterAll s past) calls) := by
  induction calls generalizing past with
  | nil => exact .nil
  | cons call rest ih =>
    have hrest := ih (past ++ [call])
    rw [afterAll_append] at hrest
    cases call with
    | addFile r => exact hrest
    | addProject fs => exact hrest
    | report => exact .cons (tells_report s past) hrest

theorem answers_append (before rest : List Call) (l : Ledger) :
    answers s l (before ++ rest) = answers s l before ++ answers s (l.afterAll s before) rest := by
  induction before generalizing l with
  | nil => rfl
  | cons call others ih =>
    cases call with
    | addFile r => exact ih _
    | addProject fs => exact ih _
    | report => exact congrArg (l.report :: ·) (ih l)

/-- Every report of a history tells of what was added before it, and a call for a report changes no
other answer. -/
theorem answers_of_history (s : Settings) (calls : List Call) :
    List.Forall₂ (Tells s) (pasts [] calls) (answers s empty calls) ∧
      ∀ before rest, calls = before ++ .report :: rest →
        ∃ r others,
          answers s empty calls = answers s empty before ++ r :: others ∧
            answers s empty (before ++ rest) = answers s empty before ++ others := by
  refine ⟨tells_answers [] calls, ?_⟩
  rintro before rest rfl
  refine ⟨(empty.afterAll s before).report, answers s (empty.afterAll s before) rest, ?_, ?_⟩
  · rw [answers_append, answers]
  · rw [answers_append]

end Ledger

end SourceConventions
