import Mathlib.Data.List.Perm.Basic
import SourceConventions.Proofs.Sorting
import SourceConventions.Run.Pool

/-!
# The moves of a pool

The work of a pool is a sequence of moves: it looks up, hands out the next waiting file, or takes in
the result of a file in flight. Which files are handed out and taken in, and how many are in flight,
is counted along that sequence. A run of rounds is such a sequence, and there are enough rounds.
-/

namespace SourceConventions.Run.Pool

inductive Move where
  | look
  | submit (file : String)
  | collect (file : String)
  deriving DecidableEq, Repr

/-- The files that are handed out by a sequence of moves, in that order. -/
def submits (moves : List Move) : List String :=
  moves.filterMap fun
    | .submit file => some file
    | _ => none

/-- The files whose results are taken in by a sequence of moves, in that order. -/
def collects (moves : List Move) : List String :=
  moves.filterMap fun
    | .collect file => some file
    | _ => none

/-- The pool without one of the files in flight. -/
def land (file : String) (p : Pool) : Pool := { p with inFlight := p.inFlight.erase file }

/-- The pool after the result of a file has been taken in. -/
def keep (s : Settings) (r : FileResult) (logs : List LogEntry) (p : Pool) : Pool :=
  { p with progress := (p.progress.log logs).take s r }

/-- One move. None of them is made if a look shows an interrupt. -/
inductive Step (limit : Nat) (s : Settings) (around : Surroundings) (task : String → Outcome) :
    Pool → Move → Pool → Prop
  | look {p q : Pool} (h : p.look around = (false, q)) : Step limit s around task p .look q
  | submit {p : Pool} {file : String} {rest : List String} (hwaiting : p.waiting = file :: rest)
      (hlimit : p.inFlight.length < limit) (hgoing : p.progress.cancelled = false) :
      Step limit s around task p (.submit file)
        { p with
          waiting := rest, inFlight := p.inFlight ++ [file], submitted := file :: p.submitted }
  | collect {p q : Pool} {file : String} {r : FileResult} {logs : List LogEntry}
      (hfile : file ∈ p.inFlight) (hreceived : received? file (task file) = some (r, logs))
      (hlook : (p.land file).look around = (false, q)) :
      Step limit s around task p (.collect file) (q.keep s r logs)

/-- A sequence of moves from one pool to another. -/
inductive Steps (limit : Nat) (s : Settings) (around : Surroundings) (task : String → Outcome) :
    Pool → List Move → Pool → Prop
  | nil {p : Pool} : Steps limit s around task p [] p
  | cons {p q r : Pool} {m : Move} {ms : List Move} (head : Step limit s around task p m q)
      (tail : Steps limit s around task q ms r) : Steps limit s around task p (m :: ms) r

section Moves

@[simp] theorem collects_append (ms ms' : List Move) :
    collects (ms ++ ms') = collects ms ++ collects ms' := List.filterMap_append ..

@[simp] theorem submits_look (ms : List Move) : submits (.look :: ms) = submits ms := rfl

@[simp] theorem submits_submit (file : String) (ms : List Move) :
    submits (.submit file :: ms) = file :: submits ms := rfl

@[simp] theorem submits_collect (file : String) (ms : List Move) :
    submits (.collect file :: ms) = submits ms := rfl

@[simp] theorem collects_look (ms : List Move) : collects (.look :: ms) = collects ms := rfl

@[simp] theorem collects_submit (file : String) (ms : List Move) :
    collects (.submit file :: ms) = collects ms := rfl

@[simp] theorem collects_collect (file : String) (ms : List Move) :
    collects (.collect file :: ms) = file :: collects ms := rfl

end Moves

variable {limit : Nat} {s : Settings} {around : Surroundings} {task : String → Outcome}
  {p q r : Pool} {ms ms' : List Move}

theorem Steps.single {m : Move} (h : Step limit s around task p m q) :
    Steps limit s around task p [m] q := .cons h .nil

theorem Steps.append (h : Steps limit s around task p ms q)
    (h' : Steps limit s around task q ms' r) : Steps limit s around task p (ms ++ ms') r := by
  induction h with
  | nil => exact h'
  | cons head _ ih => exact .cons head (ih h')

/-- A sequence of moves can be stopped anywhere. -/
theorem Steps.split (h : Steps limit s around task p (ms ++ ms') r) :
    ∃ q, Steps limit s around task p ms q ∧ Steps limit s around task q ms' r := by
  induction ms generalizing p with
  | nil => exact ⟨p, .nil, h⟩
  | cons m rest ih =>
    cases h with
    | cons head tail =>
      obtain ⟨q, hq, hr⟩ := ih tail
      exact ⟨q, .cons head hq, hr⟩

/-! ### What a look leaves as it is -/

/-- What is waiting neither shows in a look nor is it changed by one. -/
theorem look_with_waiting {seen : Bool} (h : p.look around = (seen, q)) (waiting : List String) :
    look around { p with waiting } = (seen, { q with waiting }) := by
  obtain ⟨rfl, rfl⟩ := Prod.mk.inj h
  rfl

theorem inFlight_of_look {seen : Bool} (h : p.look around = (seen, q)) : q.inFlight = p.inFlight := by
  obtain ⟨rfl, rfl⟩ := Prod.mk.inj h
  rfl

theorem waiting_of_look {seen : Bool} (h : p.look around = (seen, q)) : q.waiting = p.waiting := by
  obtain ⟨rfl, rfl⟩ := Prod.mk.inj h
  rfl

/-- An interrupt leaves the progress as it is. -/
theorem progress_of_interrupt (h : p.look around = (true, q)) : q.progress = p.progress := by
  obtain ⟨hseen, rfl⟩ := Prod.mk.inj h
  rw [beq_iff_eq] at hseen
  simp only [hseen, Progress.disturbed]

/-! ### What moves keep -/

/-- What has been handed out and what is waiting are the files of the run in their order. -/
theorem Steps.submits_append_waiting (h : Steps limit s around task p ms q) :
    submits ms ++ q.waiting = p.waiting := by
  induction h with
  | nil => rfl
  | cons head _ ih =>
    cases head with
    | look hlook => exact ih.trans (waiting_of_look hlook)
    | submit hwaiting => rw [submits_submit, List.cons_append, ih, hwaiting]
    | collect _ _ hlook =>
      have hwaiting := waiting_of_look hlook
      exact ih.trans hwaiting

/-- What has been handed out is in flight or has been taken in. -/
theorem Steps.collects_append_inFlight (h : Steps limit s around task p ms q) :
    (collects ms ++ q.inFlight).Perm (p.inFlight ++ submits ms) := by
  induction h with
  | nil => simp [collects, submits]
  | @cons p q r m ms head _ ih =>
    cases head with
    | look hlook =>
      rw [inFlight_of_look hlook] at ih
      exact ih
    | @submit _ file rest =>
      rw [collects_submit, submits_submit]
      simpa using ih
    | @collect q file result logs hfile _ hlook =>
      have hflight := inFlight_of_look hlook
      have ih : (collects ms ++ r.inFlight).Perm (q.inFlight ++ submits ms) := ih
      rw [hflight] at ih
      rw [collects_collect, submits_collect, List.cons_append]
      refine (ih.cons file).trans ?_
      rw [← List.cons_append]
      exact (List.perm_cons_erase hfile).symm.append_right _

theorem Steps.length_inFlight_le (h : Steps limit s around task p ms q)
    (hp : p.inFlight.length ≤ limit) : q.inFlight.length ≤ limit := by
  induction h with
  | nil => exact hp
  | cons head _ ih =>
    refine ih ?_
    cases head with
    | look hlook => rwa [inFlight_of_look hlook]
    | submit _ hlimit => rwa [List.length_append, List.length_singleton]
    | @collect q file result logs _ _ hlook =>
      have hflight := inFlight_of_look hlook
      change q.inFlight.length ≤ limit
      rw [hflight]
      exact Nat.le_trans List.length_erase_le hp

/-- The number of files in flight is the number of those handed out and not taken in. -/
theorem Steps.length_submitted (h : Steps limit s around task p ms q) :
    p.inFlight.length + (submits ms).length = (collects ms).length + q.inFlight.length := by
  have hlength := h.collects_append_inFlight.length_eq
  rw [List.length_append, List.length_append] at hlength
  exact hlength.symm

/-- At no moment are there more files in flight than the workers may have. -/
theorem Steps.length_submits_le {limit : Nat} {files : List String} {p : Progress} {q : Pool}
    {ms ms' : List Move} (h : Steps limit s around task (start files p) ms q) (hms : ms' <+: ms) :
    (submits ms').length ≤ (collects ms').length + limit := by
  obtain ⟨ms'', rfl⟩ := hms
  obtain ⟨r, hr, -⟩ := h.split
  have hlength := hr.length_submitted
  have hlimit := hr.length_inFlight_le (Nat.zero_le limit)
  rw [start, List.length_nil] at hlength
  omega

/-! ### The rounds are made of moves -/

/-- Why no more files are handed out. -/
def Stalled (limit : Nat) (p : Pool) : Prop :=
  p.waiting = [] ∨ p.progress.cancelled = true ∨ limit ≤ p.inFlight.length

/-- An interrupt reaches the pool at its next look, from outside, or from one of its workers. -/
def Interruptible (around : Surroundings) (task : String → Outcome) (p : Pool) : Prop :=
  around.during p.moment = some .interrupt ∨ ∃ file ∈ p.inFlight, task file = .interrupted

/-- How the work of a pool ends. -/
inductive Ends (limit : Nat) (around : Surroundings) (task : String → Outcome) (q : Pool) :
    Ending → Prop
  | finished (hflight : q.inFlight = []) (hstalled : q.Stalled limit) :
      Ends limit around task q (.finished q.progress)
  | interrupted (h : q.Interruptible around task) :
      Ends limit around task q (.interrupted q.progress)

theorem during_of_interrupt (h : p.look around = (true, q)) :
    around.during p.moment = some .interrupt := by
  obtain ⟨hseen, -⟩ := Prod.mk.inj h
  exact beq_iff_eq.mp hseen

theorem interruptible_of_received {file : String} (hfile : file ∈ p.inFlight)
    (h : received? file (task file) = none) : p.Interruptible around task := by
  refine .inr ⟨file, hfile, ?_⟩
  cases htask : task file with
  | result r logs => rw [htask] at h; cases h
  | mishap m => rw [htask] at h; cases h
  | interrupted => rfl

section Rounds

variable (limit s around task)

/-- Handing out is made of moves. The list of waiting files is an argument of its own. -/
theorem fill_steps (waiting : List String) (p : Pool) :
    ∃ ms q, Steps limit s around task { p with waiting } ms q ∧
      (fill limit around waiting p = (false, q) ∧ q.Stalled limit ∨
        ∃ r, fill limit around waiting p = (true, r) ∧ r.progress = q.progress ∧
          q.Interruptible around task) := by
  induction waiting generalizing p with
  | nil =>
    obtain ⟨seen, p', hlook⟩ : ∃ seen p', p.look around = (seen, p') := ⟨_, _, rfl⟩
    rw [fill, hlook]
    cases seen with
    | true =>
      have hprogress := progress_of_interrupt hlook
      have hseen := during_of_interrupt hlook
      exact ⟨[], { p with waiting := [] }, .nil,
        .inr ⟨_, rfl, hprogress, .inl hseen⟩⟩
    | false =>
      exact ⟨[.look], _, .single (.look (look_with_waiting hlook [])), .inl ⟨rfl, .inl rfl⟩⟩
  | cons file rest ih =>
    obtain ⟨seen, p', hlook⟩ : ∃ seen p', p.look around = (seen, p') := ⟨_, _, rfl⟩
    rw [fill, hlook]
    cases seen with
    | true =>
      have hprogress := progress_of_interrupt hlook
      have hseen := during_of_interrupt hlook
      exact ⟨[], { p with waiting := file :: rest }, .nil,
        .inr ⟨_, rfl, hprogress, .inl hseen⟩⟩
    | false =>
      have hstep : Step limit s around task { p with waiting := file :: rest } .look
          { p' with waiting := file :: rest } := .look (look_with_waiting hlook (file :: rest))
      dsimp only
      rw [if_neg Bool.false_ne_true]
      split
      case isTrue hstop =>
        rw [Bool.or_eq_true, decide_eq_true_eq] at hstop
        exact ⟨[.look], _, .single hstep, .inl ⟨rfl, .inr hstop⟩⟩
      case isFalse hgo =>
        rw [Bool.or_eq_true, decide_eq_true_eq, not_or, Bool.not_eq_true, Nat.not_le] at hgo
        obtain ⟨hgoing, hlimit⟩ := hgo
        obtain ⟨ms, q, hsteps, hfill⟩ := ih
          { p' with inFlight := p'.inFlight ++ [file], submitted := file :: p'.submitted }
        exact ⟨.look :: .submit file :: ms, q,
          .cons hstep (.cons (.submit rfl hlimit hgoing) hsteps), hfill⟩

/-- Taking in results is made of moves, one for each file unless there is an interrupt. -/
theorem collect_steps {files : List String} (hnodup : files.Nodup)
    (hfiles : ∀ file ∈ files, file ∈ p.inFlight) :
    ∃ ms q, Steps limit s around task p ms q ∧
      (collect s around task files p = (false, q) ∧ collects ms = files ∨
        ∃ r, collect s around task files p = (true, r) ∧ r.progress = q.progress ∧
          q.Interruptible around task) := by
  induction files generalizing p with
  | nil => exact ⟨[], p, .nil, .inl ⟨rfl, rfl⟩⟩
  | cons file rest ih =>
    obtain ⟨hfile, hrest⟩ := List.nodup_cons.mp hnodup
    cases hreceived : received? file (task file) with
    | none =>
      rw [collect, hreceived]
      have hwhy : p.Interruptible around task :=
        interruptible_of_received (hfiles file List.mem_cons_self) hreceived
      exact ⟨[], p, .nil, .inr ⟨_, rfl, rfl, hwhy⟩⟩
    | some answer =>
      obtain ⟨result, logs⟩ := answer
      obtain ⟨seen, p', hlook⟩ : ∃ seen p', (p.land file).look around = (seen, p') := ⟨_, _, rfl⟩
      have hlook' := hlook
      rw [land] at hlook'
      rw [collect, hreceived]
      dsimp only
      rw [hlook']
      cases seen with
      | true =>
        have hprogress := progress_of_interrupt hlook
        have hseen := during_of_interrupt hlook
        exact ⟨[], p, .nil, .inr ⟨_, rfl, hprogress, .inl hseen⟩⟩
      | false =>
        -- The files that are still to be taken in are others and so still in flight.
        have hstill : ∀ other ∈ rest, other ∈ (p'.keep s result logs).inFlight := by
          intro other hother
          have hne : other ≠ file := fun h => hfile (h ▸ hother)
          have hin := hfiles other (List.mem_cons_of_mem file hother)
          change other ∈ p'.inFlight
          rw [inFlight_of_look hlook]
          exact (List.mem_erase_of_ne hne).mpr hin
        obtain ⟨ms, q, hsteps, hcollect⟩ := ih hrest hstill
        have hstep : Step limit s around task p (.collect file) (p'.keep s result logs) :=
          .collect (hfiles file List.mem_cons_self) hreceived hlook
        refine ⟨.collect file :: ms, q, .cons hstep hsteps, ?_⟩
        rw [collects_collect]
        exact hcollect.imp (fun h => ⟨h.1, congrArg _ h.2⟩) fun h => h

/-- A wait hands back files in flight, each of them once, and at least one if there is any. -/
theorem pick_spec (sch : Schedule) (n : Nat) (inFlight : List String) :
    (sch.pick n inFlight).Nodup ∧ (∀ file ∈ sch.pick n inFlight, file ∈ inFlight) ∧
      (inFlight ≠ [] → sch.pick n inFlight ≠ []) := by
  rw [Schedule.pick]
  split
  next =>
    cases inFlight with
    | nil => exact ⟨.nil, fun _ h => h, fun h => absurd rfl h⟩
    | cons file rest =>
      refine ⟨List.pairwise_singleton _ file, fun other h => ?_, fun _ => List.cons_ne_nil file []⟩
      exact List.mem_singleton.mp h ▸ List.mem_cons_self
  next files hfiles =>
    refine ⟨Sorting.nodup_distinct _, fun file h => ?_, fun _ => hfiles⟩
    rw [Sorting.mem_distinct, List.mem_filter] at h
    exact List.contains_iff_mem.mp h.2

/-- A round is made of moves. If it is not the last one, it takes in a result. -/
theorem round_steps (sch : Schedule) (n : Nat) (p : Pool) :
    ∃ ms q, Steps limit s around task p ms q ∧
      ((∃ e, round limit s around sch task n p = .inl e ∧ Ends limit around task q e) ∨
        round limit s around sch task n p = .inr q ∧ collects ms ≠ []) := by
  obtain ⟨ms, p', hsteps, hfill⟩ :=
    fill_steps limit s around task p.waiting p
  rw [round]
  rcases hfill with ⟨hfill, hstalled⟩ | ⟨r, hfill, hprogress, hwhy⟩
  case inr =>
    rw [hfill]
    exact ⟨ms, p', hsteps, .inl ⟨_, rfl, hprogress ▸ .interrupted hwhy⟩⟩
  rw [hfill]
  dsimp only
  rw [if_neg Bool.false_ne_true]
  by_cases hflight : p'.inFlight = []
  case pos =>
    rw [hflight]
    exact ⟨ms, p', hsteps, .inl ⟨_, rfl, .finished hflight hstalled⟩⟩
  rw [if_neg (by simpa using hflight)]
  obtain ⟨seen, p'', hlook⟩ : ∃ seen p'', p'.look around = (seen, p'') := ⟨_, _, rfl⟩
  rw [hlook]
  cases seen with
  | true =>
    have hprogress := progress_of_interrupt hlook
    refine ⟨ms, p', hsteps, .inl ⟨_, rfl, ?_⟩⟩
    exact hprogress ▸ .interrupted (.inl (during_of_interrupt hlook))
  | false =>
    have hsteps' := hsteps.append (.single (.look hlook))
    obtain ⟨hnodup, hpicked, hsome⟩ := pick_spec sch n p''.inFlight
    obtain ⟨ms', q, hcollecting, hcollect⟩ := collect_steps limit s around task hnodup hpicked
    refine ⟨_, q, hsteps'.append hcollecting, ?_⟩
    dsimp only
    rw [if_neg Bool.false_ne_true]
    rcases hcollect with ⟨hcollect, hall⟩ | ⟨r, hcollect, hprogress, hwhy⟩
    · rw [hcollect]
      refine .inr ⟨rfl, ?_⟩
      rw [collects_append, hall]
      rw [inFlight_of_look hlook] at hsome ⊢
      exact List.append_ne_nil_of_right_ne_nil _ (hsome hflight)
    · rw [hcollect]
      exact .inl ⟨_, rfl, hprogress ▸ .interrupted hwhy⟩

/-- Rounds are made of moves. Without an end, each of them has taken in a result. -/
theorem rounds_steps (sch : Schedule) (fuel n : Nat) (p : Pool) :
    ∃ ms q, Steps limit s around task p ms q ∧
      (Ends limit around task q (rounds limit s around sch task fuel n p) ∨
        fuel ≤ (collects ms).length) := by
  induction fuel generalizing n p with
  | zero => exact ⟨[], p, .nil, .inr (Nat.zero_le _)⟩
  | succ fuel ih =>
    obtain ⟨ms, p', hsteps, hround⟩ := round_steps limit s around task sch n p
    rw [rounds]
    rcases hround with ⟨e, hround, hends⟩ | ⟨hround, hsome⟩
    · rw [hround]
      exact ⟨ms, p', hsteps, .inl hends⟩
    · rw [hround]
      obtain ⟨ms', q, hsteps', hrest⟩ := ih (n + 1) p'
      refine ⟨_, q, hsteps.append hsteps', hrest.imp id fun hfuel => ?_⟩
      have hpos : 0 < (collects ms).length := List.length_pos_iff.mpr hsome
      rw [collects_append, List.length_append]
      omega

end Rounds

/-- There are enough rounds: a pool takes in no more results than there are files. -/
theorem run_steps (workers : Nat) (s : Settings) (around : Surroundings) (sch : Schedule)
    (task : String → Outcome) (files : List String) (p : Progress) :
    ∃ ms q, Steps (workers * inFlightPerWorker) s around task
        (start files (p.log [startLog workers])) ms q ∧
      Ends (workers * inFlightPerWorker) around task q
        (run workers s around sch task files p) := by
  obtain ⟨ms, q, hsteps, hrun⟩ := rounds_steps (workers * inFlightPerWorker) s around task sch
    (files.length + 1) 0 (start files (p.log [startLog workers]))
  refine ⟨ms, q, hsteps, hrun.resolve_right fun hfuel => ?_⟩
  have hlength := hsteps.length_submitted
  have hwaiting := congrArg List.length hsteps.submits_append_waiting
  rw [List.length_append] at hwaiting
  simp only [start, List.length_nil] at hlength hwaiting
  omega

end SourceConventions.Run.Pool
