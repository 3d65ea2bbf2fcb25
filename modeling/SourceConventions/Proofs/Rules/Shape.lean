import SourceConventions.Analysis
import SourceConventions.Proofs.Traversal
import SourceConventions.Rules.Layout

/-!
# What the findings of a rule look like

The parts of a finding that its key leaves out can be told from those that it has: which rule it is
of gives its severity and whether it has a column and a subject, and its subject gives whether it is
demoted. So a key tells the findings of rules apart.
-/

namespace SourceConventions

/-- A finding as a rule makes it about a path. -/
structure Finding.OfRule (r : Rule) (path : String) (f : Finding) : Prop where
  rule : f.rule = r.id
  path : f.path = path
  severity : f.severity = r.defaultSeverity
  column : f.column.isSome = decide (r.scope = .file)
  subject : f.subject.isSome = decide (r ≠ .parseError)
  demoted : f.demoted = (decide (r = .verbPrefix) && f.subject.any Name.isPrivate)

namespace Finding

/-- What a key says about a column or a subject says it all if it is known whether there is one. -/
private theorem eq_of_getD_eq {α : Type} {a b : Option α} {d : α} (h : a.isSome = b.isSome)
    (hd : a.getD d = b.getD d) : a = b := by
  cases a with
  | none => cases b with
    | none => rfl
    | some y => cases h
  | some x => cases b with
    | none => cases h
    | some y => exact congrArg some hd

/-- A key tells the findings of rules apart. -/
theorem OfRule.eq_of_key_eq {r r' : Rule} {p p' : String} {f g : Finding} (hf : OfRule r p f)
    (hg : OfRule r' p' g) (h : f.key = g.key) : f = g := by
  obtain ⟨hpath, hline, hrule, hcolumn, hmessage, hsubject⟩ := Key.mk.inj h
  have hr : r = r' := Rule.id_injective (by rw [← hf.rule, ← hg.rule, hrule])
  subst hr
  have hseverity : f.severity = g.severity := hf.severity.trans hg.severity.symm
  have hcol : f.column = g.column := eq_of_getD_eq (hf.column.trans hg.column.symm) hcolumn
  have hsub : f.subject = g.subject := eq_of_getD_eq (hf.subject.trans hg.subject.symm) hsubject
  have hdemoted : f.demoted = g.demoted := by rw [hf.demoted, hg.demoted, hsub]
  obtain ⟨_, _, _, _, _, _, _, _⟩ := f
  obtain ⟨_, _, _, _, _, _, _, _⟩ := g
  simp_all

/-- A finding of one of the rules. -/
def OfSomeRule (f : Finding) : Prop := ∃ r path, OfRule r path f

end Finding

namespace Rules

open Finding

theorem finding_ofRule {rule : Rule} (hfile : rule.scope = .file) (hverb : rule ≠ .verbPrefix)
    (path : String) (pos : Syntax.Position) (subject message : String) :
    OfRule rule path (finding rule path pos subject message) where
  rule := rfl
  path := rfl
  severity := rfl
  column := by simp [finding, hfile]
  subject := by
    have h : rule ≠ .parseError := by rintro rfl; cases hfile
    simp [finding, h]
  demoted := by simp [finding, hverb]

variable {path : String} {facts : Facts} {f : Finding}

theorem snakeCase_ofRule (h : f ∈ snakeCase path facts) : OfRule .snakeCase path f := by
  have hfinding (pos subject message) :
      OfRule .snakeCase path (finding .snakeCase path pos subject message) :=
    finding_ofRule rfl (by decide) path pos subject message
  rcases List.mem_append.mp h with h | h
  · obtain ⟨fn, -, h⟩ := List.mem_flatMap.mp h
    rcases List.mem_append.mp h with h | h
    · by_cases hname : isMisnamedFunction fn
      · rw [if_pos hname, List.mem_singleton] at h
        exact h ▸ hfinding ..
      · rw [if_neg hname] at h
        cases h
    · obtain ⟨p, -, rfl⟩ := List.mem_map.mp h
      exact hfinding ..
  · obtain ⟨v, -, rfl⟩ := List.mem_map.mp h
    exact hfinding ..

theorem verbPrefix_ofRule (h : f ∈ verbPrefix path facts) : OfRule .verbPrefix path f := by
  obtain ⟨fn, -, rfl⟩ := List.mem_map.mp h
  exact ⟨rfl, rfl, rfl, rfl, rfl, rfl⟩

theorem genericName_ofRule {names : List String} {most : Nat}
    (h : f ∈ genericName names most path facts) : OfRule .genericName path f := by
  obtain ⟨v, -, rfl⟩ := List.mem_map.mp h
  exact finding_ofRule rfl (by decide) ..

theorem magicNumber_ofRule {allowed : List Numeral} {threshold : Numeral} {fs : List Finding}
    (h : magicNumber allowed threshold path facts = .ok fs) (hf : f ∈ fs) :
    OfRule .magicNumber path f := by
  obtain ⟨l, -, hl⟩ := Traversal.exists_of_mem_answers h hf
  rw [magicFinding] at hl
  split at hl
  · cases hl
    exact finding_ofRule rfl (by decide) ..
  · cases hl

theorem missingHint_ofRule {publicOnly : Bool} (h : f ∈ missingHint publicOnly path facts) :
    OfRule .missingHint path f := by
  rcases List.mem_append.mp h with h | h
  · obtain ⟨fn, -, h⟩ := List.mem_filterMap.mp h
    rw [functionHint] at h
    split at h
    · cases h
    · cases h
      exact finding_ofRule rfl (by decide) ..
  · obtain ⟨v, -, rfl⟩ := List.mem_map.mp h
    exact finding_ofRule rfl (by decide) ..

theorem requiredDirectory_ofRule {required : List String} {t : DirectorySnapshot}
    (h : f ∈ requiredDirectory required t) : OfRule .requiredDirectory f.path f := by
  obtain ⟨name, -, rfl⟩ := List.mem_map.mp h
  exact ⟨rfl, rfl, rfl, rfl, rfl, rfl⟩

end Rules

theorem ParseFault.finding_ofRule (f : ParseFault) : Finding.OfRule .parseError f.path f.finding :=
  ⟨rfl, rfl, rfl, rfl, rfl, rfl⟩

end SourceConventions
