import Mathlib.Data.List.Forall2

/-!
# Lists of answers, each of which may be a fault

All elements of a list are answered, or one of them is not.
-/

namespace SourceConventions.Traversal

variable {α β ε : Type} {f : α → Except ε β}

theorem eq_ok_of_toOption {answer : Except ε β} {y : β} (h : answer.toOption = some y) :
    answer = .ok y := by
  cases answer with
  | error e => cases h
  | ok z => exact congrArg Except.ok (Option.some.inj h)

theorem bind_eq_ok_iff {x : Except ε α} {y : β} :
    x >>= f = .ok y ↔ ∃ a, x = .ok a ∧ f a = .ok y := by
  cases x <;> simp [bind, Except.bind]

theorem mapM_cons_eq_ok_iff {x : α} {xs : List α} {ys : List β} :
    (x :: xs).mapM f = .ok ys ↔ ∃ z zs, f x = .ok z ∧ xs.mapM f = .ok zs ∧ ys = z :: zs := by
  rw [List.mapM_cons]
  cases f x with
  | error e => simp [bind, Except.bind]
  | ok z => cases xs.mapM f <;> simp [bind, Except.bind, pure, Except.pure, eq_comm]

theorem mapM_eq_ok_iff {xs : List α} {ys : List β} :
    xs.mapM f = .ok ys ↔ List.Forall₂ (fun x y => f x = .ok y) xs ys := by
  induction xs generalizing ys with
  | nil =>
    rw [List.mapM_nil, List.forall₂_nil_left_iff]
    exact ⟨fun h => (Except.ok.inj h).symm, fun h => congrArg Except.ok h.symm⟩
  | cons x rest ih =>
    rw [mapM_cons_eq_ok_iff, List.forall₂_cons_left_iff]
    constructor
    · rintro ⟨z, zs, hz, hzs, rfl⟩
      exact ⟨z, zs, hz, ih.mp hzs, rfl⟩
    · rintro ⟨z, zs, hz, hzs, rfl⟩
      exact ⟨z, zs, hz, ih.mpr hzs, rfl⟩

/-- What is found among the answers is the answer to an element. -/
theorem exists_of_mem_answers {xs : List α} {ys : List β} (h : xs.mapM f = .ok ys) {y : β}
    (hy : y ∈ ys) : ∃ x ∈ xs, f x = .ok y := by
  rw [mapM_eq_ok_iff] at h
  induction h with
  | nil => cases hy
  | @cons x z xs ys hxz _ ih =>
    rcases List.mem_cons.mp hy with rfl | hy
    · exact ⟨x, List.mem_cons_self, hxz⟩
    · obtain ⟨w, hw, hwy⟩ := ih hy
      exact ⟨w, List.mem_cons_of_mem x hw, hwy⟩

theorem exists_answer_of_mem {xs : List α} {ys : List β} (h : xs.mapM f = .ok ys) {x : α}
    (hx : x ∈ xs) : ∃ y ∈ ys, f x = .ok y := by
  rw [mapM_eq_ok_iff] at h
  induction h with
  | nil => cases hx
  | @cons w z xs ys hwz _ ih =>
    rcases List.mem_cons.mp hx with rfl | hx
    · exact ⟨z, List.mem_cons_self, hwz⟩
    · obtain ⟨y, hy, hxy⟩ := ih hx
      exact ⟨y, List.mem_cons_of_mem z hy, hxy⟩

theorem exists_mapM_eq_ok {xs : List α} (h : ∀ x ∈ xs, ∃ y, f x = .ok y) :
    ∃ ys, xs.mapM f = .ok ys := by
  induction xs with
  | nil => exact ⟨[], rfl⟩
  | cons x rest ih =>
    obtain ⟨y, hy⟩ := h x List.mem_cons_self
    obtain ⟨ys, hys⟩ := ih fun z hz => h z (List.mem_cons_of_mem x hz)
    exact ⟨y :: ys, mapM_cons_eq_ok_iff.mpr ⟨y, ys, hy, hys, rfl⟩⟩

/-- None of the answers that are given at some of the elements is a fault. -/
theorem exists_filterMap_mapM_iff {g : α → Option (Except ε β)} {xs : List α} :
    (∃ ys, (xs.filterMap g).mapM (fun answer => answer) = .ok ys) ↔
      ∀ x ∈ xs, ∀ answer ∈ g x, ∃ y, answer = .ok y := by
  constructor
  · rintro ⟨ys, h⟩ x hx answer hanswer
    obtain ⟨y, -, hy⟩ := exists_answer_of_mem h (List.mem_filterMap.mpr ⟨x, hx, hanswer⟩)
    exact ⟨y, hy⟩
  · intro h
    refine exists_mapM_eq_ok fun answer hanswer => ?_
    obtain ⟨x, hx, hg⟩ := List.mem_filterMap.mp hanswer
    exact h x hx answer hg

/-- What is done with each answer is done with all of them. -/
theorem mapM_map_answers {γ : Type} (g : β → γ) (f : α → Except ε β) (xs : List α) :
    (xs.mapM fun x => (f x).map g) = (xs.mapM f).map (List.map g) := by
  induction xs with
  | nil => rfl
  | cons x rest ih =>
    rw [List.mapM_cons, List.mapM_cons, ih]
    cases f x with
    | error e => rfl
    | ok y => cases rest.mapM f <;> rfl

theorem exists_forall₂_iff {R : α → β → Prop} {xs : List α} :
    (∃ ys, List.Forall₂ R xs ys) ↔ ∀ x ∈ xs, ∃ y, R x y := by
  constructor
  · rintro ⟨ys, h⟩
    induction h with
    | nil => simp
    | @cons x y xs ys hxy _ ih => exact List.forall_mem_cons.mpr ⟨⟨y, hxy⟩, ih⟩
  · intro h
    induction xs with
    | nil => exact ⟨[], .nil⟩
    | cons x rest ih =>
      obtain ⟨y, hy⟩ := h x List.mem_cons_self
      obtain ⟨ys, hys⟩ := ih fun z hz => h z (List.mem_cons_of_mem x hz)
      exact ⟨y :: ys, hys.cons hy⟩

/-! ### Answers that may be missing -/

section Missing

variable {g : α → Option β} {xs : List α}

theorem mapM_eq_some_iff {ys : List β} :
    xs.mapM g = some ys ↔ List.Forall₂ (fun x y => g x = some y) xs ys := by
  induction xs generalizing ys with
  | nil =>
    rw [List.mapM_nil, List.forall₂_nil_left_iff]
    exact ⟨fun h => (Option.some.inj h).symm, fun h => congrArg some h.symm⟩
  | cons x rest ih =>
    rw [List.mapM_cons, List.forall₂_cons_left_iff]
    simp only [← ih, Option.bind_eq_bind, Option.bind_eq_some_iff, Option.pure_def,
      Option.some.injEq]
    constructor
    · rintro ⟨y, hy, ys, hys, rfl⟩
      exact ⟨y, ys, hy, hys, rfl⟩
    · rintro ⟨y, ys, hy, hys, rfl⟩
      exact ⟨y, hy, ys, hys, rfl⟩

/-- What holds of all answers holds of the answer to each element. -/
theorem forall_mem_answers_iff {ys : List β} (h : xs.mapM g = some ys) {P : β → Prop} :
    (∀ y ∈ ys, P y) ↔ ∀ x ∈ xs, ∃ y, g x = some y ∧ P y := by
  rw [mapM_eq_some_iff] at h
  induction h with
  | nil => simp
  | cons hxy _ ih => simp [hxy, ih]

/-- Elements that each have an answer of some kind have such answers together. -/
theorem exists_mapM_eq_some_iff {P : β → Prop} :
    (∃ ys, xs.mapM g = some ys ∧ ∀ y ∈ ys, P y) ↔ ∀ x ∈ xs, ∃ y, g x = some y ∧ P y := by
  constructor
  · rintro ⟨ys, hys, hall⟩
    exact (forall_mem_answers_iff hys).mp hall
  · intro h
    obtain ⟨ys, hys⟩ := exists_forall₂_iff.mpr fun x hx => (h x hx).imp fun _ hy => hy.1
    have hmap := mapM_eq_some_iff.mpr hys
    exact ⟨ys, hmap, (forall_mem_answers_iff hmap).mpr h⟩

end Missing

end SourceConventions.Traversal
