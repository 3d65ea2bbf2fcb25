import SourceConventions.Proofs.Run.Course
import SourceConventions.Proofs.Run.Determinism

/-!
# Cancelled and interrupted runs

A run that is cancelled or interrupted by its last check has no report: from then on no file is
handed out and no result is kept, and nothing is done of what follows the work on its files. A run
that meets neither has a report, unless one worker meets with a mishap.
-/

namespace SourceConventions.Run

variable {q : Request} {root : String} {files : List String} {logs : List Event}

/-- A pool whose flag is not set in the end has kept what the files contribute that it has taken
in. -/
theorem Pool.Steps.ledger_of_going {limit : Nat} {s : Settings} {around : Surroundings}
    {task : String → Outcome} {p last : Pool} {ms : List Pool.Move}
    (h : Steps limit s around task p ms last) (hgoing : last.progress.cancelled = false) :
    last.progress.ledger =
      p.progress.ledger.addFiles s ((collects ms).filterMap (contribution? task)) := by
  induction h with
  | nil => rfl
  | @cons p q last m ms head tail ih =>
    -- A flag that is set here is still set in the end.
    have hhere : q.progress.cancelled = false := by
      rw [Bool.eq_false_iff]
      intro hset
      rw [tail.looked.cancelled_iff.mpr (.inl hset)] at hgoing
      cases hgoing
    rw [ih hgoing]
    cases head with
    | look hlook => rw [ledger_of_look hlook, collects_look]
    | submit => rfl
    | @collect q file r logs hfile hreceived hlook =>
      have hcontribution : contribution? task file = some r := by
        rw [contribution?, hreceived]
        rfl
      have hseen : q.progress.cancelled = false :=
        (Progress.cancelled_take (q.progress.log logs) s r).symm.trans hhere
      have hlooked : q.progress.ledger = (p.land file).progress.ledger := ledger_of_look hlook
      have hkeep : (q.keep s r logs).progress.ledger = p.progress.ledger.addFile s r := by
        rw [keep, Progress.take_log_of_going hseen, hlooked]
        rfl
      rw [hkeep, collects_collect, List.filterMap_cons_some hcontribution, Ledger.addFiles_cons]

namespace Course

variable {workers : Nat} {begun : List LogEntry}

/-- That a run is cancelled or interrupted before its last check: before it starts, at a look, in
the analysis of a file, or after the work on its files. -/
def Disturbed (c : Course q root files workers begun) : Prop :=
  q.around.cancelledBefore = true ∨ (∃ n < c.looks, q.around.during n ≠ none) ∨
    (∃ file, c.halt = .interruptedBy file) ∨
    q.around.cancelledAfter = true ∧ c.halt.mishap? = none

theorem flag_iff {ms : List Pool.Move} {p : Pool} {limit : Nat}
    (h : Pool.Steps limit q.settings q.around (task q root)
      (Pool.start files ((Progress.start q.around).log begun)) ms p) :
    p.progress.cancelled = true ↔
      q.around.cancelledBefore = true ∨ ∃ n < p.moment, q.around.during n = some .cancel := by
  rw [h.looked.cancelled_iff]
  refine or_congr Iff.rfl (exists_congr fun n => ?_)
  exact ⟨fun hn => hn.2, fun hn => ⟨Nat.zero_le n, hn⟩⟩

/-- A disturbance shows in the last state, in how the work ends, or after it. -/
theorem disturbed_iff (c : Course q root files workers begun) :
    c.Disturbed ↔ c.last.progress.cancelled = true ∨ c.halt.isInterrupt = true ∨
      q.around.cancelledAfter = true ∧ c.halt.mishap? = none := by
  have hflag := flag_iff c.steps
  have hlooks : c.looks = c.last.moment + c.halt.looks := rfl
  constructor
  · rintro (hbefore | ⟨n, hn, hseen⟩ | ⟨file, hfile⟩ | hafter)
    · exact .inl (hflag.mpr (.inl hbefore))
    · rcases Nat.lt_or_ge n c.last.moment with hlt | hge
      · cases hduring : q.around.during n with
        | none => exact absurd hduring hseen
        | some d =>
          cases d with
          | cancel => exact .inl (hflag.mpr (.inr ⟨n, hlt, hduring⟩))
          | interrupt =>
            exact absurd ⟨n, Nat.zero_le n, hlt, hduring⟩ c.steps.looked.not_interrupt
      · refine .inr (.inl ?_)
        cases hhalt : c.halt with
        | interrupted => rfl
        | interruptedBy file => rfl
        | drained =>
          rw [hlooks, hhalt] at hn
          exact absurd hn (Nat.not_lt.mpr hge)
        | mishap file m =>
          rw [hlooks, hhalt] at hn
          exact absurd hn (Nat.not_lt.mpr hge)
    · exact .inr (.inl (by rw [hfile]; rfl))
    · exact .inr (.inr hafter)
  · rintro (hcancelled | hinterrupt | hafter)
    · rcases hflag.mp hcancelled with hbefore | ⟨n, hn, hduring⟩
      · exact .inl hbefore
      · refine .inr (.inl ⟨n, Nat.lt_of_lt_of_le hn (Nat.le_add_right _ _), ?_⟩)
        rw [hduring]
        exact nofun
    · have hhalts := c.halts
      cases hhalt : c.halt with
      | interrupted =>
        rw [hhalt] at hhalts hlooks
        refine .inr (.inl ⟨c.last.moment, hlooks ▸ Nat.lt_succ_self _, ?_⟩)
        rw [show q.around.during c.last.moment = _ from hhalts]
        exact nofun
      | interruptedBy file => exact .inr (.inr (.inl ⟨file, hhalt⟩))
      | drained => rw [hhalt] at hinterrupt; cases hinterrupt
      | mishap file m => rw [hhalt] at hinterrupt; cases hinterrupt
    · exact .inr (.inr (.inr hafter))

end Course

/-- What a run has told when the work on its files has come to its end. -/
def toldBy (q : Request) (files : List String) (logs : List Event) (g : Progress) (halt : Halt) :
    List Event :=
  logs ++ [startNotice files.length (workerCount q.processors q.jobs files.length)] ++
    g.logs.map Event.log ++ if halt.isInterrupt then [interruptLog] else []

/-- The run after the work on its files. -/
theorem run_of_halt (hstart : start q = .ok (root, files, logs)) {halt : Halt} {g : Progress}
    (hwork : work q root (workerCount q.processors q.jobs files.length) files = halt.ending g) :
    run q =
      match halt.mishap? with
      | some m => ⟨toldBy q files logs g halt, g.cancelled, .error (.mishap m)⟩
      | none =>
        if g.cancelled || halt.isInterrupt || q.around.cancelledAfter then
          ⟨toldBy q files logs g halt, true, .error .aborted⟩
        else
          match conclude q root g with
          | .error f => ⟨toldBy q files logs g halt, false, .error f⟩
          | .ok (report, events) =>
            ⟨toldBy q files logs g halt ++ events ++ [endNotice report], false, .ok report⟩ := by
  rw [run, hstart]
  dsimp only
  rw [hwork]
  rw [toldBy]
  cases halt with
  | drained =>
    cases hconclude : conclude q root g <;>
      simp only [Halt.ending, Ending.progress, Halt.mishap?, Halt.isInterrupt, finish, hconclude,
        Bool.or_false, Bool.false_eq_true, if_false, List.append_nil]
  | interrupted | interruptedBy file =>
    simp only [Halt.ending, Ending.progress, Halt.mishap?, Halt.isInterrupt, finish, Progress.cancel,
      Bool.or_true, Bool.true_or, if_pos]
  | mishap file m =>
    simp only [Halt.ending, Ending.progress, Halt.mishap?, Halt.isInterrupt, Bool.false_eq_true,
      if_false, List.append_nil]

theorem exists_conclusion (hstart : start q = .ok (root, files, logs)) (p : Progress) :
    ∃ report events, conclude q root p = .ok (report, events) := by
  obtain ⟨found, logs', hfound⟩ := snapshot_of_start hstart
  rw [conclude, hfound]
  exact ⟨_, _, rfl⟩

section Conclusions

variable {begun : List LogEntry}
  (c : Course q root files (workerCount q.processors q.jobs files.length) begun)

/-- A mishap ends the run with whatever has been told. -/
theorem run_of_mishap (hstart : start q = .ok (root, files, logs)) {m : Mishap}
    (hm : c.halt.mishap? = some m) :
    run q =
      ⟨toldBy q files logs c.progress c.halt, c.last.progress.cancelled, .error (.mishap m)⟩ := by
  rw [run_of_halt hstart c.ending, hm, c.alike.cancelled]

/-- The work on files that does not end in a mishap leaves the run disturbed or not. -/
theorem isDisturbed_iff (hm : c.halt.mishap? = none) :
    (c.progress.cancelled || c.halt.isInterrupt || q.around.cancelledAfter) = true ↔
      c.Disturbed := by
  rw [c.disturbed_iff, c.alike.cancelled, Bool.or_eq_true, Bool.or_eq_true, or_assoc,
    and_iff_left hm]

/-- A disturbance leaves the run without a report and without a word of what follows the work on
its files. -/
theorem run_of_disturbed (hstart : start q = .ok (root, files, logs))
    (hm : c.halt.mishap? = none) (hdisturbed : c.Disturbed) :
    run q = ⟨toldBy q files logs c.progress c.halt, true, .error .aborted⟩ := by
  rw [run_of_halt hstart c.ending, hm]
  exact if_pos ((isDisturbed_iff c hm).mpr hdisturbed)

/-- Without a disturbance there is a report. -/
theorem run_of_not_disturbed (hstart : start q = .ok (root, files, logs))
    (hm : c.halt.mishap? = none) (hdisturbed : ¬ c.Disturbed) :
    ∃ events report, run q = ⟨events, false, .ok report⟩ := by
  obtain ⟨report, events, hreport⟩ := exists_conclusion hstart c.progress
  refine ⟨toldBy q files logs c.progress c.halt ++ events ++ [endNotice report], report, ?_⟩
  rw [run_of_halt hstart c.ending, hm]
  dsimp only
  rw [if_neg ((isDisturbed_iff c hm).not.mpr hdisturbed), hreport]

/-- The flag of a run is set in the end just if there has been a disturbance. -/
theorem cancelled_iff (hstart : start q = .ok (root, files, logs)) :
    (run q).cancelled = true ↔ c.Disturbed := by
  cases hm : c.halt.mishap? with
  | some m =>
    have hno : c.halt.isInterrupt = false := by
      cases hhalt : c.halt with
      | mishap => rfl
      | _ => rw [hhalt] at hm; cases hm
    rw [run_of_mishap c hstart hm, c.disturbed_iff, hno, hm]
    simp
  | none =>
    by_cases hdisturbed : c.Disturbed
    · rw [run_of_disturbed c hstart hm hdisturbed]
      exact iff_of_true rfl hdisturbed
    · obtain ⟨events, report, hrun⟩ := run_of_not_disturbed c hstart hm hdisturbed
      rw [hrun]
      exact iff_of_false Bool.false_ne_true hdisturbed

end Conclusions

/-- A course that ends as it should, with the flag not set, takes in every file. -/
theorem Course.collects_perm {workers : Nat} {begun : List LogEntry}
    (c : Course q root files workers begun) (hdrained : c.halt = .drained)
    (hgoing : c.last.progress.cancelled = false) : (Pool.collects c.moves).Perm files := by
  have hhalts := c.halts
  rw [hdrained] at hhalts
  obtain ⟨hflight, hstalled⟩ := hhalts
  have hwaiting : c.last.waiting = [] := by
    rcases hstalled with h | h | h
    · exact h
    · rw [hgoing] at h
      cases h
    · rw [hflight, inFlightLimit, inFlightPerWorker, List.length_nil] at h
      split at h <;> omega
  have htaken := c.steps.collects_append_inFlight
  have hall : Pool.submits c.moves ++ c.last.waiting = files := c.steps.submits_append_waiting
  rw [hwaiting, List.append_nil] at hall
  rw [hflight, List.append_nil, hall] at htaken
  exact htaken

/-- The analysis of each file comes back as it is. -/
def Request.Faithful (q : Request) : Prop := ∀ path o, q.fate path o = o

theorem Request.Faithful.undisturbed (hq : q.Faithful) :
    { q with around := .quiet }.Undisturbed := ⟨rfl, hq⟩

/-- A run that has a report reports what its files contribute, whatever goes on around it. -/
theorem eq_reportOf (hstart : start q = .ok (root, files, logs)) (hq : q.Faithful)
    {found : DirectorySnapshot} {logs' : List LogEntry}
    (hfound : q.tree.snapshot root defaultExcludedNames = .ok (found, logs')) {r : Report}
    (hr : (run q).report = .ok r) : r = reportOf q root files found := by
  obtain ⟨begun, ⟨c⟩⟩ :=
    exists_course q root files (workerCount q.processors q.jobs files.length)
  have hm : c.halt.mishap? = none := by
    cases hm : c.halt.mishap? with
    | none => rfl
    | some m => rw [run_of_mishap c hstart hm] at hr; cases hr
  have hdisturbed : ¬ c.Disturbed := by
    intro hdisturbed
    rw [run_of_disturbed c hstart hm hdisturbed] at hr
    cases hr
  have hquiet := (c.disturbed_iff.not.mp hdisturbed)
  rw [not_or, not_or, Bool.not_eq_true] at hquiet
  obtain ⟨hgoing, hinterrupt, -⟩ := hquiet
  have hdrained : c.halt = .drained := by
    cases hhalt : c.halt with
    | drained => rfl
    | mishap file m => rw [hhalt] at hm; cases hm
    | interrupted | interruptedBy file => exact absurd (by rw [hhalt]; rfl) hinterrupt
  have hledger : c.progress.ledger = Ledger.empty.addFiles q.settings
      ((Pool.collects c.moves).filterMap (contribution? (task q root))) :=
    c.alike.ledger.trans (c.steps.ledger_of_going hgoing)
  have hcontributions := (c.collects_perm hdrained hgoing).filterMap (contribution? (task q root))
  have hrules := ofRules_contributions hq.undisturbed root (Pool.collects c.moves)
  rw [run_of_halt hstart c.ending, hm] at hr
  dsimp only at hr
  rw [if_neg ((isDisturbed_iff c hm).not.mpr hdisturbed), conclude_of_snapshot hfound hledger] at hr
  rw [← Except.ok.inj hr, reportOf]
  exact report_ledgerOf_perm hcontributions hrules

end SourceConventions.Run
