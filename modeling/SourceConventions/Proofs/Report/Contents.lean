import Mathlib.Data.List.Perm.Basic
import SourceConventions.Proofs.Report.KeyOrder
import SourceConventions.Proofs.Sorting

/-!
# What a ledger holds

A ledger holds a finding if one was added that is settled to it, and holds it once. The order in
which results are added shows neither in what it holds nor, as long as no two findings share a key,
in its report.
-/

namespace SourceConventions.Ledger

variable {s : Settings} {l : Ledger} {f : Finding}

theorem mem_record {fs : List Finding} : f ∈ (l.record fs).findings ↔ f ∈ l.findings ∨ f ∈ fs := by
  obtain ⟨known, files⟩ := l
  induction fs generalizing known with
  | nil => simp [record]
  | cons g rest ih =>
    by_cases hg : g ∈ known
    · have h := ih known
      simp only [record, List.foldl_cons, if_pos hg, List.mem_cons] at h ⊢
      rw [h]
      constructor
      · rintro (h | h)
        · exact .inl h
        · exact .inr (.inr h)
      · rintro (h | rfl | h)
        · exact .inl h
        · exact .inl hg
        · exact .inr h
    · have h := ih (g :: known)
      simp only [record, List.foldl_cons, if_neg hg, List.mem_cons] at h ⊢
      rw [h, or_comm (a := f = g), or_assoc]

theorem nodup_record {fs : List Finding} (h : l.findings.Nodup) : (l.record fs).findings.Nodup := by
  obtain ⟨known, files⟩ := l
  induction fs generalizing known with
  | nil => exact h
  | cons g rest ih =>
    by_cases hg : g ∈ known
    · simpa [record, hg] using ih known h
    · simpa [record, hg] using ih (g :: known) (List.nodup_cons.mpr ⟨hg, h⟩)

@[simp] theorem files_record (fs : List Finding) (l : Ledger) : (l.record fs).files = l.files := rfl

theorem mem_addProject {fs : List Finding} :
    f ∈ (l.addProject s fs).findings ↔ f ∈ l.findings ∨ ∃ g ∈ fs, settle s g = some f := by
  rw [addProject, mem_record, List.mem_filterMap]

theorem nodup_addProject {fs : List Finding} (h : l.findings.Nodup) :
    (l.addProject s fs).findings.Nodup := nodup_record h

@[simp] theorem files_addProject (fs : List Finding) (l : Ledger) :
    (l.addProject s fs).files = l.files := rfl

theorem mem_addFile {r : FileResult} :
    f ∈ (l.addFile s r).findings ↔
      f ∈ l.findings ∨ s.excludes r.path = false ∧ ∃ g ∈ r.findings, settle s g = some f := by
  by_cases he : s.excludes r.path
  · simp [addFile, he]
  · rw [addFile, if_neg he, mem_addProject]
    simp [he]

theorem nodup_addFile {r : FileResult} (h : l.findings.Nodup) : (l.addFile s r).findings.Nodup := by
  by_cases he : s.excludes r.path
  · simpa [addFile, he] using h
  · simpa [addFile, he] using nodup_addProject h

/-- Adds the results of files one after the other. -/
def addFiles (s : Settings) (rs : List FileResult) (l : Ledger) : Ledger :=
  rs.foldl (fun l r => l.addFile s r) l

@[simp] theorem addFiles_nil (l : Ledger) : l.addFiles s [] = l := rfl

@[simp] theorem addFiles_cons (r : FileResult) (rs : List FileResult) (l : Ledger) :
    l.addFiles s (r :: rs) = (l.addFile s r).addFiles s rs := rfl

theorem mem_addFiles {rs : List FileResult} :
    f ∈ (l.addFiles s rs).findings ↔
      f ∈ l.findings ∨
        ∃ r ∈ rs, s.excludes r.path = false ∧ ∃ g ∈ r.findings, settle s g = some f := by
  induction rs generalizing l with
  | nil => simp
  | cons r rest ih =>
    rw [addFiles_cons, ih, mem_addFile, or_assoc]
    simp only [List.mem_cons, exists_eq_or_imp]

theorem nodup_addFiles {rs : List FileResult} (h : l.findings.Nodup) :
    (l.addFiles s rs).findings.Nodup := by
  induction rs generalizing l with
  | nil => exact h
  | cons r rest ih => exact ih (nodup_addFile h)

theorem files_addFiles (rs : List FileResult) (l : Ledger) :
    (l.addFiles s rs).files = l.files + rs.countP (fun r => !s.excludes r.path) := by
  induction rs generalizing l with
  | nil => rfl
  | cons r rest ih =>
    rw [addFiles_cons, ih, List.countP_cons]
    by_cases he : s.excludes r.path
    · simp [addFile, he]
    · simp [addFile, he]
      omega

/-! ### Findings of project rules -/

/-- Adds the findings of each rule of a list. -/
def addRules (s : Settings) (found : Rule → List Finding) (rules : List Rule) (l : Ledger) : Ledger :=
  rules.foldl (fun l rule => l.addProject s (found rule)) l

theorem mem_addRules {found : Rule → List Finding} {rules : List Rule} :
    f ∈ (l.addRules s found rules).findings ↔
      f ∈ l.findings ∨ ∃ rule ∈ rules, ∃ g ∈ found rule, settle s g = some f := by
  induction rules generalizing l with
  | nil => simp [addRules]
  | cons rule rest ih =>
    have h := ih (l := l.addProject s (found rule))
    rw [addRules] at h ⊢
    rw [List.foldl_cons, h, mem_addProject, or_assoc]
    simp only [List.mem_cons, exists_eq_or_imp]

theorem nodup_addRules {found : Rule → List Finding} {rules : List Rule} (h : l.findings.Nodup) :
    (l.addRules s found rules).findings.Nodup := by
  induction rules generalizing l with
  | nil => exact h
  | cons rule rest ih => exact ih (nodup_addProject h)

@[simp] theorem files_addRules (found : Rule → List Finding) (rules : List Rule) (l : Ledger) :
    (l.addRules s found rules).files = l.files := by
  induction rules generalizing l with
  | nil => rfl
  | cons rule rest ih => exact ih (l.addProject s (found rule))

/-! ### Reports -/

theorem mem_report : f ∈ l.report.findings ↔ f ∈ l.findings := Sorting.mem_sort

/-- Findings that keys tell apart are put in order in just one way. -/
theorem sort_eq_of_perm {fs gs : List Finding} (h : fs.Perm gs)
    (hkey : ∀ f ∈ fs, ∀ g ∈ fs, f.key = g.key → f = g) :
    Sorting.sort (fun a b => a.key.before b.key) fs =
      Sorting.sort (fun a b => a.key.before b.key) gs :=
  Sorting.sort_eq_of_perm Finding.before_iff_parts h
    fun f hf g hg h => hkey f hf g hg (Finding.Key.parts_injective h)

/-- Some of the findings in the reports of ledgers are the same if they are in the ledgers. -/
theorem filter_report_eq {l l' : Ledger} (hl : l.findings.Nodup) (hl' : l'.findings.Nodup)
    {p : Finding → Bool} (hmem : ∀ f, p f = true → (f ∈ l.findings ↔ f ∈ l'.findings))
    (hkey : ∀ f ∈ l.findings, ∀ g ∈ l.findings, f.key = g.key → f = g) :
    l.report.findings.filter p = l'.report.findings.filter p := by
  have hperm : (l.findings.filter p).Perm (l'.findings.filter p) := by
    refine (List.perm_ext_iff_of_nodup (hl.filter p) (hl'.filter p)).mpr fun f => ?_
    rw [List.mem_filter, List.mem_filter]
    exact and_congr_left (hmem f)
  exact Sorting.filter_sort_eq Finding.before_iff_parts hperm
    fun f hf g hg h => hkey f hf g hg (Finding.Key.parts_injective h)

/-- Ledgers that hold the same findings, no two of them with one key, have the same report. -/
theorem report_eq_of_mem_iff {l l' : Ledger} (hl : l.findings.Nodup) (hl' : l'.findings.Nodup)
    (hmem : ∀ f, f ∈ l.findings ↔ f ∈ l'.findings) (hfiles : l.files = l'.files)
    (hkey : ∀ f ∈ l.findings, ∀ g ∈ l.findings, f.key = g.key → f = g) : l.report = l'.report := by
  have hperm : l.findings.Perm l'.findings := (List.perm_ext_iff_of_nodup hl hl').mpr hmem
  rw [report, report, sort_eq_of_perm hperm hkey, hfiles]

/-- The findings of a report may come in any order before they are sorted. -/
theorem sort_eq_of_perm_report (hkey : ∀ f ∈ l.findings, ∀ g ∈ l.findings, f.key = g.key → f = g)
    {fs : List Finding} (h : fs.Perm l.report.findings) :
    Sorting.sort (fun a b => a.key.before b.key) fs = l.report.findings :=
  (sort_eq_of_perm ((Sorting.sort_perm _ _).symm.trans h.symm) hkey).symm

end SourceConventions.Ledger
