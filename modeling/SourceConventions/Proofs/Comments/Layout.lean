import Mathlib.Data.List.TakeWhile
import SourceConventions.Proofs.Comments.Quoting

/-!
# Where statements start

A line starts a statement if it starts outside texts and brackets and the line before it is not
joined to it. The columns at which statements start are uneven if one of them goes back behind the
one before it and does not come to the column of the last one that is not deeper.
-/

namespace SourceConventions.Syntax

/-- Whether a line that is read is joined to the next one. -/
def LineReading.joins (line : List Char) (r : LineReading) : Bool :=
  r.mode == .code && r.comment.isNone && line.getLast? == some '\\'

theorem LineReading.joins_suffix {line rest : List Char} (h : rest <:+ line) (hne : rest ≠ [])
    (r : LineReading) : r.joins line = r.joins rest := by
  obtain ⟨front, rfl⟩ := h
  have hlast : (front ++ rest).getLast? = rest.getLast? := by
    rw [List.getLast?_append, List.getLast?_eq_some_getLast hne]
    rfl
  rw [joins, joins, hlast]

theorem LineReading.joins_nil (r : LineReading) : r.joins [] = false := by
  simp [joins]

/-- Only a backslash at its end joins a line. -/
theorem LineReading.joins_behind {line rest : List Char} {c : Char} (hc : c ≠ '\\')
    (h : c :: rest <:+ line) (r : LineReading) : r.joins line = r.joins rest := by
  rw [joins_suffix h (List.cons_ne_nil _ _)]
  cases rest with
  | nil => simp [joins, hc]
  | cons d more => exact joins_suffix (List.suffix_cons c _) (List.cons_ne_nil _ _) r

/-- The column at which something other than a comment starts in a line. -/
def startColumn? (line : List Char) : Option Nat :=
  match Comment.measure 0 line with
  | (_, []) => none
  | (column, c :: _) => if c = '#' then none else some column

/-- The column at which a statement starts in a line, if one does. A number of brackets may be open
in front of the line, and the line before it may be joined to it. -/
def statementColumn? (m : LineMode) (depth : Int) (joined : Bool) (line : List Char) : Option Nat :=
  if m = .code ∧ depth = 0 ∧ !joined then startColumn? line else none

/-- The lines at which statements start, with their columns, and whether the last line would be
joined to one that is missing. -/
structure Layout where
  starts : List (Nat × Nat)
  joined : Bool

def Layout.behind (n : Nat) (column : Option Nat) (l : Layout) : Layout :=
  { l with starts := (column.map (n, ·)).toList ++ l.starts }

/-- The layout of lines from a number on. What stands behind the last line feed is no line if it is
empty. -/
def layout (n : Nat) (m : LineMode) (depth : Int) (joined : Bool) : List (List Char) → Layout
  | [] => ⟨[], joined⟩
  | line :: rest =>
    if line.isEmpty && rest.isEmpty then ⟨[], joined⟩
    else
      match readLine m line with
      | none => ⟨[], false⟩
      | some r =>
        (layout (n + 1) r.mode (depth + r.change) (!rest.isEmpty && r.joins line) rest).behind n
          (statementColumn? m depth joined line)

/-- The layout of a text as it is written. -/
def Layout.ofText (text : String) : Layout :=
  layout 1 .code 0 false ((Text.lines text.toList).map Text.withoutReturn)

/-- The column of the last statement, zero if there is none. -/
def lastColumn (starts : List (Nat × Nat)) : Nat := (starts.getLast?.map (·.2)).getD 0

/-- Whether a statement behind others starts between the columns of those around it. -/
def Between (before : List (Nat × Nat)) (column : Nat) : Prop :=
  column < lastColumn before ∧ lastColumn (before.filter (·.2 ≤ column)) < column

/-- Whether some statement goes back to a column at which none around it starts. -/
def Uneven (starts : List (Nat × Nat)) : Prop :=
  ∃ before n column after, starts = before ++ (n, column) :: after ∧ Between before column

/-- Statements start at even columns, and the last line is not joined to one that is missing. -/
def Layout.Even (l : Layout) : Prop := ¬ Uneven l.starts ∧ l.joined = false

/-! ### Open indentations -/

/-- The open indentations, the innermost first, when a statement starts at a column. -/
def opened (indents : List Nat) (column : Nat) : List Nat :=
  if indents.headD 0 < column then column :: indents else indents.dropWhile fun i => column < i

/-- Whether a statement goes back to a column that is not open. -/
def leaps (indents : List Nat) (column : Nat) : Bool :=
  column < indents.headD 0 && !indents.contains column

/-- The first statement that goes back to a column that is not open. -/
def leap? (indents : List Nat) : List (Nat × Nat) → Option Nat
  | [] => none
  | (n, column) :: rest => if leaps indents column then some n else leap? (opened indents column) rest

/-- The open indentations behind a line in which a statement may start, if it does not leap. -/
def enter? (indents : List Nat) : Option Nat → Option (List Nat)
  | none => some indents
  | some column => if leaps indents column then none else some (opened indents column)

theorem leap?_append (indents : List Nat) (n : Nat) (column : Option Nat)
    (starts : List (Nat × Nat)) :
    leap? indents ((column.map (n, ·)).toList ++ starts) =
      match enter? indents column with
      | none => some n
      | some indents => leap? indents starts := by
  cases column with
  | none => rfl
  | some column =>
    simp only [Option.map_some, Option.toList_some, List.singleton_append, leap?, enter?]
    split <;> rfl

/-- The open indentations tell the last column, and for every column the last one that is not
deeper. -/
structure Open (before : List (Nat × Nat)) (indents : List Nat) : Prop where
  ordered : indents.Pairwise (· > ·)
  zero_mem : 0 ∈ indents
  last : indents.headD 0 = lastColumn before
  around : ∀ column, (indents.find? (· ≤ column)).getD 0 =
    lastColumn (before.filter (·.2 ≤ column))

theorem lastColumn_append (before : List (Nat × Nat)) (n column : Nat) :
    lastColumn (before ++ [(n, column)]) = column := by
  simp [lastColumn]

theorem open_nil : Open [] [0] :=
  ⟨List.pairwise_singleton _ _, List.mem_singleton_self 0, rfl, fun _ => rfl⟩

/-- The first open indentation that is not deeper than one that is open is that one. -/
theorem find?_eq_some_of_mem {indents : List Nat} (h : indents.Pairwise (· > ·)) {column : Nat}
    (hmem : column ∈ indents) : indents.find? (· ≤ column) = some column := by
  induction indents with
  | nil => cases hmem
  | cons i rest ih =>
    obtain ⟨hi, hrest⟩ := List.pairwise_cons.mp h
    rcases List.mem_cons.mp hmem with rfl | hmem
    · simp
    · have hlt : column < i := hi column hmem
      rw [List.find?_cons_of_neg (by simpa using hlt), ih hrest hmem]

theorem Open.leaps_iff {before : List (Nat × Nat)} {indents : List Nat} (h : Open before indents)
    (column : Nat) : leaps indents column = true ↔ Between before column := by
  have hmem : column ∈ indents ↔ ¬ (indents.find? (· ≤ column)).getD 0 < column := by
    constructor
    · intro hmem
      rw [find?_eq_some_of_mem h.ordered hmem]
      simp
    · intro hnot
      cases hfind : indents.find? (· ≤ column) with
      | none =>
        have hzero := List.find?_eq_none.mp hfind 0 h.zero_mem
        simp at hzero
      | some i =>
        have hle : i ≤ column := by simpa using List.find?_some hfind
        rw [hfind, Option.getD_some] at hnot
        obtain rfl : i = column := by omega
        exact List.mem_of_find?_eq_some hfind
  rw [Between, ← h.last, ← h.around, leaps]
  simp only [Bool.and_eq_true, decide_eq_true_eq, Bool.not_eq_true', List.contains_eq_mem,
    decide_eq_false_iff_not, hmem, not_not]

theorem find?_dropWhile {indents : List Nat} {x column : Nat} (h : x < column) :
    (indents.dropWhile fun i => column < i).find? (· ≤ x) = indents.find? (· ≤ x) := by
  induction indents with
  | nil => rfl
  | cons i rest ih =>
    by_cases hi : column < i
    · rw [List.dropWhile_cons_of_pos (by simpa using hi), ih,
        List.find?_cons_of_neg (by simpa using lt_trans h hi)]
    · rw [List.dropWhile_cons_of_neg (by simpa using hi)]

/-- What is left of open indentations that are not deeper than one of them starts with it. -/
theorem dropWhile_eq_cons_of_mem {indents : List Nat} (h : indents.Pairwise (· > ·)) {column : Nat}
    (hmem : column ∈ indents) :
    ∃ rest, (indents.dropWhile fun i => column < i) = column :: rest := by
  induction indents with
  | nil => cases hmem
  | cons i rest ih =>
    obtain ⟨hi, hrest⟩ := List.pairwise_cons.mp h
    rcases List.mem_cons.mp hmem with rfl | hmem
    · exact ⟨rest, List.dropWhile_cons_of_neg (by simp)⟩
    · have hlt : column < i := hi column hmem
      rw [List.dropWhile_cons_of_pos (by simpa using hlt)]
      exact ih hrest hmem

/-- A statement that does not leap is the innermost one that is open behind it. -/
theorem opened_eq_cons {before : List (Nat × Nat)} {indents : List Nat} (h : Open before indents)
    {column : Nat} (hleaps : leaps indents column = false) :
    ∃ rest, opened indents column = column :: rest := by
  unfold opened
  split
  next => exact ⟨indents, rfl⟩
  next hdeeper =>
    refine dropWhile_eq_cons_of_mem h.ordered ?_
    by_cases hless : column < indents.headD 0
    · rw [leaps, decide_eq_true hless, Bool.true_and] at hleaps
      simpa using hleaps
    · obtain rfl : indents.headD 0 = column := by omega
      cases indents with
      | nil => exact absurd h.zero_mem List.not_mem_nil
      | cons i rest => exact List.mem_cons_self

theorem Open.next {before : List (Nat × Nat)} {indents : List Nat} (h : Open before indents)
    {column : Nat} (hleaps : leaps indents column = false) (n : Nat) :
    Open (before ++ [(n, column)]) (opened indents column) := by
  obtain ⟨rest, hrest⟩ := opened_eq_cons h hleaps
  constructor
  · unfold opened
    split
    next hdeeper =>
      refine List.pairwise_cons.mpr ⟨fun i hi => ?_, h.ordered⟩
      cases indents with
      | nil => cases hi
      | cons top more =>
        rcases List.mem_cons.mp hi with rfl | hi
        · exact hdeeper
        · exact lt_trans ((List.pairwise_cons.mp h.ordered).1 i hi) hdeeper
    next => exact h.ordered.sublist (List.dropWhile_sublist _)
  · unfold opened
    split
    · exact List.mem_cons_of_mem _ h.zero_mem
    · have hzero := h.zero_mem
      rw [← List.takeWhile_append_dropWhile (p := fun i => decide (column < i)) (l := indents)] at hzero
      refine (List.mem_append.mp hzero).resolve_left fun hmem => ?_
      simpa using List.mem_takeWhile_imp hmem
  · rw [hrest, lastColumn_append]
    rfl
  · intro x
    rw [List.filter_append]
    by_cases hx : column ≤ x
    · rw [hrest, List.find?_cons_of_pos (by simpa using hx)]
      simp [hx, lastColumn_append]
    · have hfind : (opened indents column).find? (· ≤ x) = indents.find? (· ≤ x) := by
        unfold opened
        split
        · exact List.find?_cons_of_neg (by simpa using hx)
        · exact find?_dropWhile (by omega)
      rw [hfind, h.around x]
      simp [hx]

theorem not_uneven_nil : ¬ Uneven [] := by
  rintro ⟨before, n, column, after, hsplit, -⟩
  exact List.cons_ne_nil _ _ (List.append_eq_nil_iff.mp hsplit.symm).2

theorem uneven_append_singleton {before : List (Nat × Nat)} {n column : Nat}
    (h : Uneven (before ++ [(n, column)])) : Uneven before ∨ Between before column := by
  obtain ⟨front, k, c, after, hsplit, hbetween⟩ := h
  rcases List.eq_nil_or_concat after with rfl | ⟨after, last, rfl⟩
  · obtain ⟨rfl, hlast⟩ := List.append_inj' hsplit rfl
    cases hlast
    exact .inr hbetween
  · rw [List.concat_eq_append, ← List.cons_append, ← List.append_assoc] at hsplit
    obtain ⟨rfl, -⟩ := List.append_inj' hsplit rfl
    exact .inl ⟨front, k, c, after, rfl, hbetween⟩

/-- A statement leaps if and only if the columns are uneven. -/
theorem leap?_eq_none_iff {before starts : List (Nat × Nat)} {indents : List Nat}
    (h : Open before indents) (hbefore : ¬ Uneven before) :
    leap? indents starts = none ↔ ¬ Uneven (before ++ starts) := by
  induction starts generalizing before indents with
  | nil => simpa [leap?] using hbefore
  | cons start rest ih =>
    obtain ⟨n, column⟩ := start
    rw [leap?]
    cases hleaps : leaps indents column with
    | true =>
      refine iff_of_false (by simp) (not_not.mpr ?_)
      exact ⟨before, n, column, rest, rfl, (h.leaps_iff column).mp hleaps⟩
    | false =>
      have hnext : ¬ Uneven (before ++ [(n, column)]) := fun huneven =>
        (uneven_append_singleton huneven).elim hbefore fun hbetween =>
          Bool.noConfusion (hleaps.symm.trans ((h.leaps_iff column).mpr hbetween))
      have hrest := ih (h.next hleaps n) hnext
      rwa [List.append_assoc] at hrest

end SourceConventions.Syntax
