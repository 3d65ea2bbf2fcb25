import SourceConventions.Proofs.Run.Pool
import SourceConventions.Run.Execution
import SourceConventions.Run.Inline

/-!
# The course of the work on files

One worker or many, the work on files is a course of moves that ends in one of four ways: one worker
is a pool in which one file is in flight. What the looks show on the way sets the flag of the run,
and no move does anything for a run whose flag is set.
-/

namespace SourceConventions.Run

/-- Why the work on files comes to its end. -/
inductive Halt where
  /-- Nothing is in flight, and nothing more is handed out. -/
  | drained
  /-- A look shows an interrupt. -/
  | interrupted
  /-- The analysis of a file in flight is interrupted. -/
  | interruptedBy (file : String)
  /-- The analysis of a file ends in a mishap that one worker does not survive. -/
  | mishap (file : String) (m : Mishap)
  deriving Repr

namespace Halt

/-- The looks that are made beyond those of the moves. -/
def looks : Halt → Nat
  | .interrupted => 1
  | _ => 0

def ending (p : Progress) : Halt → Ending
  | .drained => .finished p
  | .interrupted | .interruptedBy _ => .interrupted p
  | .mishap _ m => .mishap m p

def mishap? : Halt → Option Mishap
  | .mishap _ m => some m
  | _ => none

/-- Whether an interrupt ends the work, from outside or from the analysis of a file. -/
def isInterrupt : Halt → Bool
  | .interrupted | .interruptedBy _ => true
  | _ => false

/-- That the work of a pool comes to its end in a way. -/
def At (limit : Nat) (around : Surroundings) (task : String → Outcome) (p : Pool) : Halt → Prop
  | .drained => p.inFlight = [] ∧ p.Stalled limit
  | .interrupted => around.during p.moment = some .interrupt
  | .interruptedBy file => file ∈ p.inFlight ∧ task file = .interrupted
  | .mishap file m => limit = 1 ∧ file ∈ p.inFlight ∧ task file = .mishap m

end Halt

namespace Progress

theorem ledger_disturbed (p : Progress) (seen : Option Disturbance) :
    (p.disturbed seen).ledger = p.ledger := by
  cases seen with
  | none => rfl
  | some d => cases d <;> rfl

theorem cancelled_disturbed (p : Progress) (seen : Option Disturbance) :
    (p.disturbed seen).cancelled = true ↔ p.cancelled = true ∨ seen = some .cancel := by
  cases seen with
  | none => simp [disturbed]
  | some d => cases d <;> simp [disturbed, cancel]

theorem cancelled_take (p : Progress) (s : Settings) (r : FileResult) :
    (p.take s r).cancelled = p.cancelled := by
  rw [take]
  split <;> rfl

/-- The same progress but for what has been logged. -/
structure Alike (p p' : Progress) : Prop where
  ledger : p.ledger = p'.ledger
  cancelled : p.cancelled = p'.cancelled

namespace Alike

variable {p p' : Progress}

theorem disturbed (h : p.Alike p') (seen : Option Disturbance) :
    (p.disturbed seen).Alike (p'.disturbed seen) := by
  refine ⟨?_, ?_⟩
  · rw [ledger_disturbed, ledger_disturbed, h.ledger]
  · rw [Bool.eq_iff_iff, cancelled_disturbed, cancelled_disturbed, h.cancelled]

theorem log (h : p.Alike p') (logs logs' : List LogEntry) : (p.log logs).Alike (p'.log logs') :=
  ⟨h.ledger, h.cancelled⟩

theorem take (h : p.Alike p') (s : Settings) (r : FileResult) :
    (p.take s r).Alike (p'.take s r) := by
  refine ⟨?_, ?_⟩
  · rw [Progress.take, Progress.take, h.cancelled]
    cases p'.cancelled with
    | true => exact h.ledger
    | false => exact congrArg (Ledger.addFile s r) h.ledger
  · rw [cancelled_take, cancelled_take, h.cancelled]

end Alike

end Progress

namespace Pool

variable {limit : Nat} {s : Settings} {around : Surroundings} {task : String → Outcome}
  {p q : Pool} {ms : List Move}

/-! ### What looks show -/

/-- A disturbance shows at a look between two states. -/
def Shows (around : Surroundings) (d : Disturbance) (p q : Pool) : Prop :=
  ∃ n, p.moment ≤ n ∧ n < q.moment ∧ around.during n = some d

/-- The looks between two states: none of them shows an interrupt, and the flag is set just if one
of them shows a cancellation. -/
structure Looked (around : Surroundings) (p q : Pool) : Prop where
  moment_le : p.moment ≤ q.moment
  cancelled_iff : q.progress.cancelled = true ↔
    p.progress.cancelled = true ∨ Shows around .cancel p q
  not_interrupt : ¬ Shows around .interrupt p q

theorem Looked.of_unseen (hmoment : q.moment = p.moment)
    (hcancelled : q.progress.cancelled = p.progress.cancelled) : Looked around p q := by
  have hnone (d : Disturbance) : ¬ Shows around d p q := by
    rintro ⟨n, hle, hlt, -⟩
    omega
  refine ⟨hmoment.ge, ?_, hnone _⟩
  rw [hcancelled]
  exact (or_iff_left (hnone _)).symm

theorem Looked.of_look (h : p.look around = (false, q)) : Looked around p q := by
  obtain ⟨hseen, rfl⟩ := Prod.mk.inj h
  rw [beq_eq_false_iff_ne] at hseen
  have hshows (d : Disturbance) : Shows around d p
      { p with
        moment := p.moment + 1, progress := p.progress.disturbed (around.during p.moment) } ↔
      around.during p.moment = some d := by
    constructor
    · rintro ⟨n, hle, hlt, hn⟩
      obtain rfl : n = p.moment := Nat.le_antisymm (Nat.le_of_lt_succ hlt) hle
      exact hn
    · exact fun hn => ⟨p.moment, Nat.le_refl _, Nat.lt_succ_self _, hn⟩
  refine ⟨Nat.le_succ _, ?_, (hshows _).not.mpr hseen⟩
  rw [hshows]
  exact Progress.cancelled_disturbed p.progress _

theorem Looked.trans {r : Pool} (h : Looked around p q) (h' : Looked around q r) :
    Looked around p r := by
  have hle := h.moment_le
  have hle' := h'.moment_le
  have hshows (d : Disturbance) : Shows around d p r ↔ Shows around d p q ∨ Shows around d q r := by
    constructor
    · rintro ⟨n, hn, hn', hd⟩
      rcases Nat.lt_or_ge n q.moment with hlt | hge
      · exact .inl ⟨n, hn, hlt, hd⟩
      · exact .inr ⟨n, hge, hn', hd⟩
    · rintro (⟨n, hn, hn', hd⟩ | ⟨n, hn, hn', hd⟩)
      · exact ⟨n, hn, Nat.lt_of_lt_of_le hn' hle', hd⟩
      · exact ⟨n, Nat.le_trans hle hn, hn', hd⟩
  refine ⟨Nat.le_trans hle hle', ?_, ?_⟩
  · rw [h'.cancelled_iff, h.cancelled_iff, hshows, or_assoc]
  · rw [hshows, not_or]
    exact ⟨h.not_interrupt, h'.not_interrupt⟩

theorem Step.looked {m : Move} (h : Step limit s around task p m q) : Looked around p q := by
  cases h with
  | look hlook => exact .of_look hlook
  | submit => exact .of_unseen rfl rfl
  | @collect q file r logs hfile hreceived hlook =>
    have hland : Looked around p (p.land file) := .of_unseen rfl rfl
    have hkeep : Looked around q (q.keep s r logs) := .of_unseen rfl (Progress.cancelled_take _ s r)
    exact (hland.trans (.of_look hlook)).trans hkeep

/-- Along a sequence of moves the flag is set by what the looks show, and no look shows an
interrupt. -/
theorem Steps.looked (h : Steps limit s around task p ms q) : Looked around p q := by
  induction h with
  | nil => exact .of_unseen rfl rfl
  | cons head _ ih => exact head.looked.trans ih

/-! ### Nothing happens to a ledger once the flag is set -/

theorem ledger_of_look {seen : Bool} (h : p.look around = (seen, q)) :
    q.progress.ledger = p.progress.ledger := by
  obtain ⟨-, rfl⟩ := Prod.mk.inj h
  exact Progress.ledger_disturbed p.progress _

/-- How the work of a pool goes on from a state to its end. -/
structure Course (limit : Nat) (s : Settings) (around : Surroundings) (task : String → Outcome)
    (start : Pool) (e : Ending) where
  moves : List Move
  last : Pool
  halt : Halt
  /-- What the end leaves, which is that of the last state but for what has been logged. -/
  progress : Progress
  steps : Steps limit s around task start moves last
  halts : halt.At limit around task last
  alike : progress.Alike last.progress
  ending : e = halt.ending progress

namespace Course

variable {e : Ending}

/-- A course without a move. -/
def stop (halt : Halt) (h : halt.At limit around task p) {g : Progress} (halike : g.Alike p.progress) :
    Course limit s around task p (halt.ending g) := ⟨[], p, halt, g, .nil, h, halike, rfl⟩

def cons {m : Move} (h : Step limit s around task p m q) (c : Course limit s around task q e) :
    Course limit s around task p e :=
  { c with moves := m :: c.moves, steps := .cons h c.steps }

/-- The number of looks that have been made in the end. -/
def looks (c : Course limit s around task p e) : Nat := c.last.moment + c.halt.looks

end Course

/-- A pool goes its course to the end. -/
theorem exists_course_of_run (workers : Nat) (s : Settings) (around : Surroundings) (sch : Schedule)
    (task : String → Outcome) (files : List String) (p : Progress) :
    Nonempty (Course (workers * inFlightPerWorker) s around task
      (start files (p.log [startLog workers])) (run workers s around sch task files p)) := by
  obtain ⟨ms, q, hsteps, hends⟩ := run_steps workers s around sch task files p
  generalize run workers s around sch task files p = e at hends
  cases hends with
  | finished hflight hstalled =>
    exact ⟨ms, q, .drained, _, hsteps, ⟨hflight, hstalled⟩, ⟨rfl, rfl⟩, rfl⟩
  | interrupted hwhy =>
    rcases hwhy with hduring | ⟨file, hfile, htask⟩
    · exact ⟨ms, q, .interrupted, _, hsteps, hduring, ⟨rfl, rfl⟩, rfl⟩
    · exact ⟨ms, q, .interruptedBy file, _, hsteps, ⟨hfile, htask⟩, ⟨rfl, rfl⟩, rfl⟩

/-! ### One worker is a pool with one file in flight -/

/-- The pool after a look. -/
def seen (around : Surroundings) (p : Pool) : Pool :=
  { p with moment := p.moment + 1, progress := p.progress.disturbed (around.during p.moment) }

theorem look_of_no_interrupt (h : around.during p.moment ≠ some .interrupt) :
    p.look around = (false, p.seen around) := by
  rw [look, beq_eq_false_iff_ne.mpr h]
  rfl

/-- The work of one worker from the analysis of a file on. -/
def inlineFrom (s : Settings) (around : Surroundings) (task : String → Outcome) (n : Nat)
    (file : String) (rest : List String) (p : Progress) : Ending :=
  if around.during (2 * n + 1) = some .interrupt then .interrupted p
  else
    let p := p.disturbed (around.during (2 * n + 1))
    match task file with
    | .interrupted => .interrupted p
    | .mishap m => .mishap m p
    | .result r logs => inline s around task (n + 1) rest ((p.log logs).take s r)

theorem inline_of_no_interrupt {n : Nat} (h : around.during (2 * n) ≠ some .interrupt) (file : String)
    (rest : List String) (p : Progress) :
    inline s around task n (file :: rest) p =
      if (p.disturbed (around.during (2 * n))).cancelled then
        .finished (p.disturbed (around.during (2 * n)))
      else inlineFrom s around task n file rest (p.disturbed (around.during (2 * n))) := by
  rw [inline]
  split
  next hinterrupt => exact absurd hinterrupt h
  next =>
    refine if_congr Iff.rfl rfl ?_
    rw [inlineFrom]
    split
    next hinterrupt => rw [if_pos hinterrupt]
    next hno => exact (if_neg hno).symm

section OneWorker

variable {file : String} {rest files : List String} {n : Nat} {g : Progress}

/-- The analysis of a file in flight and what follows, if what follows that has a course. -/
theorem exists_course_of_inlineFrom (hwaiting : p.waiting = rest) (hflight : p.inFlight = [file])
    (hmoment : p.moment = 2 * n + 1) (halike : g.Alike p.progress)
    (hrest : ∀ (g : Progress) (p : Pool), p.waiting = rest → p.inFlight = [] →
      p.moment = 2 * (n + 1) → g.Alike p.progress →
        Nonempty (Course 1 s around task p (inline s around task (n + 1) rest g))) :
    Nonempty (Course 1 s around task p (inlineFrom s around task n file rest g)) := by
  rw [inlineFrom, ← hmoment]
  by_cases hseen : around.during p.moment = some .interrupt
  case pos =>
    rw [if_pos hseen]
    exact ⟨.stop .interrupted hseen halike⟩
  rw [if_neg hseen]
  have hlook := look_of_no_interrupt hseen
  have hfile : file ∈ p.inFlight := hflight ▸ List.mem_cons_self
  have halike' : (g.disturbed (around.during p.moment)).Alike (p.seen around).progress :=
    halike.disturbed _
  cases htask : task file with
  | interrupted =>
    refine ⟨.cons (.look hlook) ?_⟩
    exact .stop (p := p.seen around) (.interruptedBy file) ⟨hfile, htask⟩ halike'
  | mishap m =>
    refine ⟨.cons (.look hlook) ?_⟩
    exact .stop (p := p.seen around) (.mishap file m) ⟨rfl, hfile, htask⟩ halike'
  | result r logs =>
    have hreceived : received? file (task file) = some (r, []) := by rw [htask]; rfl
    have hland : (p.land file).look around = (false, (p.land file).seen around) :=
      look_of_no_interrupt hseen
    have hnone : p.inFlight.erase file = [] := by rw [hflight, List.erase_cons_head]
    have hmoment' : p.moment + 1 = 2 * (n + 1) := by omega
    obtain ⟨c⟩ := hrest _ (((p.land file).seen around).keep s r []) hwaiting hnone hmoment'
      ((halike'.log logs []).take s r)
    exact ⟨.cons (.collect hfile hreceived hland) c⟩

/-- One file after the other: each of them is handed out and taken in before the next one. -/
theorem exists_course_of_inline (hwaiting : p.waiting = files) (hflight : p.inFlight = [])
    (hmoment : p.moment = 2 * n) (halike : g.Alike p.progress) :
    Nonempty (Course 1 s around task p (inline s around task n files g)) := by
  induction files generalizing n g p with
  | nil => exact ⟨.stop .drained ⟨hflight, .inl hwaiting⟩ halike⟩
  | cons file rest ih =>
    by_cases hseen : around.during (2 * n) = some .interrupt
    case pos =>
      rw [inline, hseen]
      rw [← hmoment] at hseen
      exact ⟨.stop .interrupted hseen halike⟩
    rw [inline_of_no_interrupt hseen, ← hmoment]
    rw [← hmoment] at hseen
    have hlook : Step 1 s around task p .look (p.seen around) := .look (look_of_no_interrupt hseen)
    have halike' : (g.disturbed (around.during p.moment)).Alike (p.seen around).progress :=
      halike.disturbed _
    by_cases hcancelled : (g.disturbed (around.during p.moment)).cancelled = true
    case pos =>
      rw [if_pos hcancelled]
      have hflag : (p.seen around).progress.cancelled = true :=
        halike'.cancelled.symm.trans hcancelled
      exact ⟨.cons hlook (.stop (p := p.seen around) .drained ⟨hflight, .inr (.inl hflag)⟩ halike')⟩
    rw [if_neg hcancelled]
    rw [Bool.not_eq_true] at hcancelled
    have hgoing : (p.seen around).progress.cancelled = false :=
      halike'.cancelled.symm.trans hcancelled
    have hnone : (p.seen around).inFlight = [] := hflight
    have hfree : (p.seen around).inFlight.length < 1 := by
      rw [hnone]
      exact Nat.one_pos
    have hout : (p.seen around).inFlight ++ [file] = [file] := by rw [hnone, List.nil_append]
    obtain ⟨c⟩ := exists_course_of_inlineFrom (p := { p.seen around with
      waiting := rest, inFlight := (p.seen around).inFlight ++ [file],
      submitted := file :: (p.seen around).submitted }) rfl hout (congrArg (· + 1) hmoment) halike'
      fun g p hwaiting hflight hmoment halike => ih hwaiting hflight hmoment halike
    exact ⟨.cons hlook (.cons (.submit hwaiting hfree hgoing) c)⟩

end OneWorker

end Pool

/-! ### The course of a run -/

/-- How many files may be in flight. -/
def inFlightLimit (workers : Nat) : Nat :=
  if workers ≤ 1 then 1 else workers * inFlightPerWorker

/-- The work on the files of a run, with what has been logged when it begins. -/
abbrev Course (q : Request) (root : String) (files : List String) (workers : Nat)
    (begun : List LogEntry) :=
  Pool.Course (inFlightLimit workers) q.settings q.around (task q root)
    (Pool.start files ((Progress.start q.around).log begun)) (work q root workers files)

theorem exists_course (q : Request) (root : String) (files : List String) (workers : Nat) :
    ∃ begun, Nonempty (Course q root files workers begun) := by
  by_cases hone : workers ≤ 1
  case pos =>
    refine ⟨[], ?_⟩
    rw [Course, inFlightLimit, work, if_pos hone, if_pos hone]
    exact Pool.exists_course_of_inline rfl rfl rfl ⟨rfl, rfl⟩
  case neg =>
    refine ⟨[Pool.startLog workers], ?_⟩
    rw [Course, inFlightLimit, work, if_neg hone, if_neg hone]
    exact Pool.exists_course_of_run workers q.settings q.around q.schedule (task q root) files
      (.start q.around)

end SourceConventions.Run
