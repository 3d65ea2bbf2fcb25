import SourceConventions.Run.Progress

/-!
# One file after the other

The run looks up twice for each file: before it and during its analysis.
-/

namespace SourceConventions.Run

/-- Works on files one after the other. `n` counts the files that have been worked on. -/
def inline (s : Settings) (around : Surroundings) (task : String → Outcome) :
    Nat → List String → Progress → Ending
  | _, [], p => .finished p
  | n, file :: rest, p =>
    match around.during (2 * n) with
    | some .interrupt => .interrupted p
    | before =>
      let p := p.disturbed before
      if p.cancelled then .finished p
      else
        match around.during (2 * n + 1) with
        | some .interrupt => .interrupted p
        | meanwhile =>
          match task file with
          | .interrupted => .interrupted (p.disturbed meanwhile)
          | .mishap m => .mishap m (p.disturbed meanwhile)
          | .result r logs =>
            inline s around task (n + 1) rest (((p.disturbed meanwhile).log logs).take s r)

end SourceConventions.Run
