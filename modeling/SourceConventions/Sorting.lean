/-!
# Sorting by insertion
-/

namespace SourceConventions.Sorting

variable {α : Type}

/-- Puts `a` in front of the first element that is not before it. -/
def insert (before : α → α → Bool) (a : α) : List α → List α
  | [] => [a]
  | b :: rest => if before b a then b :: insert before a rest else a :: b :: rest

/-- The elements in order; equal ones keep their places. -/
def sort (before : α → α → Bool) : List α → List α
  | [] => []
  | a :: rest => insert before a (sort before rest)

theorem mem_insert {before : α → α → Bool} {a b : α} {l : List α} :
    b ∈ insert before a l ↔ b = a ∨ b ∈ l := by
  induction l with
  | nil => simp [insert]
  | cons c rest ih =>
    by_cases h : before c a <;> simp [insert, h, ih]
    grind

theorem mem_sort {before : α → α → Bool} {b : α} {l : List α} :
    b ∈ sort before l ↔ b ∈ l := by
  induction l with
  | nil => simp [sort]
  | cons a rest ih => simp [sort, mem_insert, ih]

/-- The elements without those that are the same as an earlier one. -/
def distinctBy (same : α → α → Bool) : List α → List α
  | [] => []
  | a :: rest => a :: (distinctBy same rest).filter (fun b => !same a b)

/-- Each element once, at its first place. -/
def distinct [BEq α] (l : List α) : List α := distinctBy (· == ·) l

/-- The texts of a list in order of code points. -/
def strings (l : List String) : List String := sort (fun a b => decide (a < b)) l

end SourceConventions.Sorting
