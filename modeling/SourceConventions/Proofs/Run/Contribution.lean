import SourceConventions.Proofs.Report.Contents
import SourceConventions.Proofs.Run.Pool
import SourceConventions.Run.Inline

/-!
# What the files of a run contribute

Without a disturbance a pool ends with the contributions of all files in its ledger, in the order in
which they came back. One file after the other, the same contributions come in up to the first file
whose analysis ends in a mishap.
-/

namespace SourceConventions.Run

/-- What comes of a file in a pool. -/
def contribution? (task : String → Outcome) (file : String) : Option FileResult :=
  (Pool.received? file (task file)).map (·.1)

variable {s : Settings} {around : Surroundings} {task : String → Outcome}

theorem contribution?_of_result {file : String} {r : FileResult} {logs : List LogEntry}
    (h : task file = .result r logs) : contribution? task file = some r := by
  rw [contribution?, h]
  rfl

theorem contribution?_of_mishap {file : String} {m : Mishap} (h : task file = .mishap m) :
    contribution? task file = some (Analysis.internalFault file m.text).result := by
  rw [contribution?, h]
  rfl

theorem Progress.take_log_of_going {p : Progress} (h : p.cancelled = false) (r : FileResult)
    (logs : List LogEntry) :
    (p.log logs).take s r = { p.log logs with ledger := p.ledger.addFile s r } := by
  rw [take, log, h]
  rfl

section Undisturbed

variable (hquiet : ∀ n, around.during n = none)
include hquiet

theorem Pool.progress_of_quiet_look {p q : Pool} {seen : Bool} (h : p.look around = (seen, q)) :
    q.progress = p.progress := by
  obtain ⟨-, rfl⟩ := Prod.mk.inj h
  rw [hquiet]
  rfl

/-- The ledger grows by the contributions of the files that are taken in. -/
theorem Pool.Steps.progress {limit : Nat} {p q : Pool} {ms : List Move}
    (h : Steps limit s around task p ms q) (hgoing : p.progress.cancelled = false) :
    q.progress.cancelled = false ∧
      q.progress.ledger =
        p.progress.ledger.addFiles s ((collects ms).filterMap (contribution? task)) := by
  induction h with
  | nil => exact ⟨hgoing, rfl⟩
  | @cons p q r m ms head _ ih =>
    cases head with
    | look hlook =>
      rw [progress_of_quiet_look hquiet hlook] at ih
      exact ih hgoing
    | submit => exact ih hgoing
    | @collect q file result logs _ hreceived hlook =>
      have hsame := progress_of_quiet_look hquiet hlook
      have hkeep : (q.keep s result logs).progress =
          { p.progress.log logs with ledger := p.progress.ledger.addFile s result } := by
        rw [keep, hsame]
        exact Progress.take_log_of_going hgoing result logs
      have hcontribution : contribution? task file = some result := by
        rw [contribution?, hreceived]
        rfl
      rw [hkeep] at ih
      obtain ⟨hstill, hledger⟩ := ih hgoing
      refine ⟨hstill, ?_⟩
      rw [hledger, collects_collect, List.filterMap_cons_some hcontribution, Ledger.addFiles_cons]

/-- Without a disturbance a pool works on all files, each of them once. -/
theorem Pool.run_finished (htask : ∀ file, task file ≠ .interrupted) {workers : Nat}
    (hworkers : 0 < workers) (sch : Schedule) (files : List String) {p : Progress}
    (hgoing : p.cancelled = false) :
    ∃ ms q, Steps (workers * inFlightPerWorker) s around task
        (start files (p.log [startLog workers])) ms q ∧
      run workers s around sch task files p = .finished q.progress ∧
      submits ms = files ∧ (collects ms).Perm files ∧ q.progress.cancelled = false ∧
      q.progress.ledger = p.ledger.addFiles s ((collects ms).filterMap (contribution? task)) := by
  obtain ⟨ms, q, hsteps, hends⟩ := run_steps workers s around sch task files p
  obtain ⟨hstill, hledger⟩ := hsteps.progress hquiet hgoing
  have hall := hsteps.submits_append_waiting
  have htaken := hsteps.collects_append_inFlight
  generalize run workers s around sch task files p = e at hends
  cases hends with
  | interrupted h =>
    rcases h with h | ⟨file, -, h⟩
    · rw [hquiet] at h
      cases h
    · exact absurd h (htask file)
  | finished hflight hstalled =>
    have hwaiting : q.waiting = [] := by
      rcases hstalled with h | h | h
      · exact h
      · rw [hstill] at h
        cases h
      · rw [hflight, inFlightPerWorker, List.length_nil] at h
        omega
    rw [hwaiting, List.append_nil] at hall
    rw [hflight, List.append_nil] at htaken
    have hfiles : submits ms = files := hall
    rw [hfiles] at htaken
    exact ⟨ms, q, hsteps, rfl, hfiles, htaken, hstill, hledger⟩

/-- One step of the work on one file after the other. -/
theorem inline_cons (file : String) (rest : List String) (n : Nat) {p : Progress}
    (hgoing : p.cancelled = false) :
    inline s around task n (file :: rest) p =
      match task file with
      | .interrupted => .interrupted p
      | .mishap m => .mishap m p
      | .result r logs => inline s around task (n + 1) rest ((p.log logs).take s r) := by
  have hbefore : p.disturbed none = p := rfl
  cases hfile : task file <;>
    simp only [inline, hquiet, hbefore, hgoing, hfile, Bool.false_eq_true, if_false]

theorem inline_of_results {files : List String} (n : Nat) {p : Progress}
    (hgoing : p.cancelled = false) (h : ∀ file ∈ files, ∃ r logs, task file = .result r logs) :
    ∃ q, inline s around task n files p = .finished q ∧ q.cancelled = false ∧
      q.ledger = p.ledger.addFiles s (files.filterMap (contribution? task)) := by
  induction files generalizing n p with
  | nil => exact ⟨p, rfl, hgoing, rfl⟩
  | cons file rest ih =>
    obtain ⟨r, logs, hfile⟩ := h file List.mem_cons_self
    have htake := Progress.take_log_of_going (s := s) hgoing r logs
    obtain ⟨q, hrun, hstill, hledger⟩ := ih (n + 1)
      (p := { p.log logs with ledger := p.ledger.addFile s r }) hgoing
      fun other hother => h other (List.mem_cons_of_mem file hother)
    refine ⟨q, ?_, hstill, ?_⟩
    · rw [inline_cons hquiet file rest n hgoing, hfile]
      dsimp only
      rw [htake]
      exact hrun
    · rw [hledger, List.filterMap_cons_some (contribution?_of_result hfile), Ledger.addFiles_cons]

/-- A mishap ends the work on one file after the other. -/
theorem inline_of_mishap {done : List String} {file : String} {m : Mishap} (rest : List String)
    (n : Nat) {p : Progress} (hgoing : p.cancelled = false)
    (hdone : ∀ file ∈ done, ∃ r logs, task file = .result r logs) (hfile : task file = .mishap m) :
    ∃ q, inline s around task n (done ++ file :: rest) p = .mishap m q := by
  induction done generalizing n p with
  | nil =>
    refine ⟨p, ?_⟩
    rw [List.nil_append, inline_cons hquiet file rest n hgoing, hfile]
  | cons first others ih =>
    obtain ⟨r, logs, hfirst⟩ := hdone first List.mem_cons_self
    have htake := Progress.take_log_of_going (s := s) hgoing r logs
    obtain ⟨q, hq⟩ := ih (n + 1) (p := { p.log logs with ledger := p.ledger.addFile s r }) hgoing
      fun other hother => hdone other (List.mem_cons_of_mem first hother)
    refine ⟨q, ?_⟩
    rw [List.cons_append, inline_cons hquiet first (others ++ file :: rest) n hgoing, hfirst]
    dsimp only
    rw [htake]
    exact hq

end Undisturbed

end SourceConventions.Run
