import Mathlib.Data.Prod.Lex
import Mathlib.Data.String.Basic
import SourceConventions.Report.Ledger

/-!
# The order of findings in a report

Keys are put in order like the tuples of their parts, so that sorting by keys gives one list for
every order of the same findings as long as no two of them share a key.
-/

namespace SourceConventions.Finding

namespace Key

/-- The parts of a key, most important first, in lexicographic order. -/
def parts (k : Key) : String ×ₗ Int ×ₗ String ×ₗ Int ×ₗ String ×ₗ String :=
  toLex (k.path, toLex (k.line, toLex (k.rule, toLex (k.column, toLex (k.message, k.subject)))))

theorem parts_injective {a b : Key} (h : a.parts = b.parts) : a = b := by
  cases a
  cases b
  simpa [parts] using h

theorem before_iff {a b : Key} : a.before b = true ↔ a.parts < b.parts := by
  simp only [before, parts, Prod.Lex.toLex_lt_toLex]
  by_cases hp : a.path = b.path
  case neg => simp [hp]
  by_cases hl : a.line = b.line
  case neg => simp [hp, hl]
  by_cases hr : a.rule = b.rule
  case neg => simp [hp, hl, hr]
  by_cases hc : a.column = b.column
  case neg => simp [hp, hl, hr, hc]
  by_cases hm : a.message = b.message
  case neg => simp [hp, hl, hr, hc, hm]
  simp [hp, hl, hr, hc, hm]

theorem eq_of_not_before {a b : Key} (hab : a.before b = false) (hba : b.before a = false) :
    a = b := by
  have h : ¬ a.parts < b.parts := by rw [← before_iff, hab]; exact Bool.false_ne_true
  have h' : ¬ b.parts < a.parts := by rw [← before_iff, hba]; exact Bool.false_ne_true
  exact parts_injective (le_antisymm (not_lt.mp h') (not_lt.mp h))

end Key

theorem before_iff_parts (f g : Finding) : f.key.before g.key = true ↔ f.key.parts < g.key.parts :=
  Key.before_iff

end SourceConventions.Finding
