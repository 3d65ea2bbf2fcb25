import Mathlib.Data.String.Basic
import Mathlib.Order.Lattice
import SourceConventions.Sorting

/-!
# What sorting and the removal of duplicates keep

Sorting by a rank gives a permutation in which ranks do not fall. If no two elements of a list share
a rank, all permutations of the list are sorted to the same one.
-/

namespace SourceConventions.Sorting

variable {α κ : Type} {before : α → α → Bool}

theorem insert_perm (before : α → α → Bool) (a : α) (l : List α) :
    (insert before a l).Perm (a :: l) := by
  induction l with
  | nil => exact .refl _
  | cons b rest ih =>
    rw [insert]
    split
    · exact (ih.cons b).trans (.swap a b rest)
    · exact .refl _

theorem sort_perm (before : α → α → Bool) (l : List α) : (sort before l).Perm l := by
  induction l with
  | nil => exact .refl _
  | cons a rest ih => exact (insert_perm before a _).trans (ih.cons a)

section Ranked

variable [LinearOrder κ] {rank : α → κ} (hrank : ∀ a b, before a b = true ↔ rank a < rank b)
include hrank

theorem pairwise_insert {a : α} {l : List α} (hl : l.Pairwise (rank · ≤ rank ·)) :
    (insert before a l).Pairwise (rank · ≤ rank ·) := by
  induction l with
  | nil => simp [insert]
  | cons b rest ih =>
    obtain ⟨hb, hrest⟩ := List.pairwise_cons.mp hl
    rw [insert]
    split
    case isTrue h =>
      have hba : rank b ≤ rank a := le_of_lt ((hrank b a).mp h)
      refine List.pairwise_cons.mpr ⟨fun c hc => ?_, ih hrest⟩
      rcases mem_insert.mp hc with rfl | hc
      · exact hba
      · exact hb c hc
    case isFalse h =>
      have hab : rank a ≤ rank b := not_lt.mp fun hlt => h ((hrank b a).mpr hlt)
      refine List.pairwise_cons.mpr ⟨fun c hc => ?_, hl⟩
      rcases List.mem_cons.mp hc with rfl | hc
      · exact hab
      · exact le_trans hab (hb c hc)

theorem pairwise_sort (l : List α) : (sort before l).Pairwise (rank · ≤ rank ·) := by
  induction l with
  | nil => exact .nil
  | cons a rest ih => exact pairwise_insert hrank ih

/-- Sorted lists of the same elements are the same if ranks tell these apart, also if only some of
the elements are looked at. -/
theorem filter_sort_eq {l l' : List α} {p : α → Bool} (h : (l.filter p).Perm (l'.filter p))
    (hinj : ∀ a ∈ l, ∀ b ∈ l, rank a = rank b → a = b) :
    (sort before l).filter p = (sort before l').filter p := by
  have hperm : ((sort before l).filter p).Perm ((sort before l').filter p) :=
    ((sort_perm before l).filter p).trans (h.trans ((sort_perm before l').filter p).symm)
  refine hperm.eq_of_pairwise (fun a b ha hb hab hba => ?_) ((pairwise_sort hrank l).filter p)
    ((pairwise_sort hrank l').filter p)
  have ha' := mem_sort.mp (List.mem_filter.mp ha).1
  have hb' := mem_sort.mp (List.mem_filter.mp (hperm.mem_iff.mpr hb)).1
  exact hinj a ha' b hb' (le_antisymm hab hba)

/-- Which list is sorted does not matter as long as ranks tell its elements apart. -/
theorem sort_eq_of_perm {l l' : List α} (h : l.Perm l')
    (hinj : ∀ a ∈ l, ∀ b ∈ l, rank a = rank b → a = b) : sort before l = sort before l' := by
  have hall : ∀ l : List α, l.filter (fun _ => true) = l := fun l =>
    List.filter_eq_self.mpr fun _ _ => rfl
  have hsort := filter_sort_eq hrank (h.filter fun _ => true) hinj
  rwa [hall, hall] at hsort

end Ranked

theorem pairwise_strings (l : List String) : (strings l).Pairwise (· ≤ ·) :=
  @pairwise_sort _ _ _ _ id (fun _ _ => decide_eq_true_iff) l

/-- Texts that differ are put in strict order. -/
theorem pairwise_lt_strings {l : List String} (h : l.Nodup) : (strings l).Pairwise (· < ·) := by
  have hne : (strings l).Pairwise (· ≠ ·) := (sort_perm _ l).nodup_iff.mpr h
  exact ((pairwise_strings l).and hne).imp fun ⟨hle, hne⟩ => lt_of_le_of_ne hle hne

/-! ### Each element once -/

theorem distinctBy_sublist (same : α → α → Bool) (l : List α) : (distinctBy same l).Sublist l := by
  induction l with
  | nil => exact .slnil
  | cons a rest ih => exact (List.filter_sublist.trans ih).cons_cons a

theorem pairwise_distinctBy (same : α → α → Bool) (l : List α) :
    (distinctBy same l).Pairwise (same · · = false) := by
  induction l with
  | nil => exact .nil
  | cons a rest ih =>
    refine List.pairwise_cons.mpr ⟨fun b hb => ?_, ih.filter _⟩
    simpa using (List.mem_filter.mp hb).2

/-- What is the same as something of a kind is of that kind, so that none of the kind is lost. -/
theorem exists_mem_distinctBy_iff {same : α → α → Bool} {P : α → Prop}
    (hP : ∀ a b, same a b = true → P b → P a) {l : List α} :
    (∃ a ∈ distinctBy same l, P a) ↔ ∃ a ∈ l, P a := by
  constructor
  · rintro ⟨a, ha, h⟩
    exact ⟨a, (distinctBy_sublist same l).mem ha, h⟩
  · rintro ⟨a, ha, h⟩
    induction l with
    | nil => cases ha
    | cons b rest ih =>
      obtain rfl | ha := List.mem_cons.mp ha
      · exact ⟨a, List.mem_cons_self, h⟩
      obtain ⟨c, hc, h⟩ := ih ha
      cases hsame : same b c with
      | true => exact ⟨b, List.mem_cons_self, hP b c hsame h⟩
      | false =>
        exact ⟨c, List.mem_cons_of_mem b (List.mem_filter.mpr ⟨hc, by simp [hsame]⟩), h⟩

theorem distinctBy_map {β : Type} (same : α → α → Bool) (f : β → α) (l : List β) :
    distinctBy same (l.map f) = (distinctBy (fun a b => same (f a) (f b)) l).map f := by
  induction l with
  | nil => rfl
  | cons a rest ih =>
    rw [List.map_cons, distinctBy, ih, List.filter_map, distinctBy, List.map_cons]
    rfl

/-- If elements are the same when their keys are, what is left of a key is its first element. -/
theorem filter_distinctBy_key [BEq κ] [LawfulBEq κ] (key : α → κ) (k : κ) (l : List α) :
    (distinctBy (fun a b => key a == key b) l).filter (key · == k)
      = (l.find? (key · == k)).toList := by
  induction l with
  | nil => rfl
  | cons a rest ih =>
    rw [distinctBy, List.filter_cons, List.find?_cons, List.filter_filter]
    cases hkey : key a == k with
    | true =>
      rw [if_pos rfl, List.filter_eq_nil_iff.mpr]
      · rfl
      · intro b _ hb
        rw [Bool.and_eq_true, beq_iff_eq, Bool.not_eq_true', beq_eq_false_iff_ne] at hb
        exact hb.2 ((beq_iff_eq.mp hkey).trans hb.1.symm)
    | false =>
      rw [if_neg Bool.false_ne_true, ← ih]
      refine List.filter_congr fun b _ => ?_
      cases hb : key b == k with
      | true => simpa [beq_iff_eq.mp hb] using hkey
      | false => rfl

theorem mem_distinct [BEq α] [LawfulBEq α] {a : α} {l : List α} : a ∈ distinct l ↔ a ∈ l := by
  induction l with
  | nil => rfl
  | cons b rest ih =>
    rw [distinct] at ih ⊢
    rw [distinctBy, List.mem_cons, List.mem_filter, ih, List.mem_cons]
    by_cases hab : a = b
    · simp [hab]
    · simp [hab, Ne.symm hab]

theorem nodup_distinct [BEq α] [LawfulBEq α] (l : List α) : (distinct l).Nodup := by
  induction l with
  | nil => exact .nil
  | cons b rest ih =>
    rw [distinct, distinctBy, List.nodup_cons]
    exact ⟨fun h => by simp at h, ih.filter _⟩

end SourceConventions.Sorting
