import SourceConventions.Syntax.Tree

/-!
# Places in a text
-/

namespace SourceConventions.Syntax

/-- A place in a text together with what follows it. -/
structure Head where
  rest : List Char
  line : Nat
  column : Nat
  deriving Repr

namespace Head

def pos (h : Head) : Position := ⟨h.line, h.column⟩

/-- The line of the last character read when nothing is left, and of the next one otherwise. -/
def lastLine (h : Head) : Nat :=
  match h.rest with
  | [] => h.line - 1
  | _ => h.line

/-- Steps over one character. -/
def step (h : Head) (c : Char) (rest : List Char) : Head :=
  if c == '\n' then ⟨rest, h.line + 1, 0⟩ else ⟨rest, h.line, h.column + c.utf8Size⟩

/-- Steps over characters of one line. -/
def skip (h : Head) (taken : List Char) (rest : List Char) : Head :=
  ⟨rest, h.line, taken.foldl (fun n c => n + c.utf8Size) h.column⟩

end Head

end SourceConventions.Syntax
