import SourceConventions.Proofs.Analysis.Independence
import SourceConventions.Proofs.Number.Value

/-!
# Which numbers need a name

A number needs a name if it is used in a comparison, in arithmetic or as a default, stands in no
definition of a constant and has not the value of a number that is exempt. One that is compared with
a retry counter needs a name only if it is far enough from zero, on whichever side. The rule about
numbers tells those that need a name and no others; if one of them has too many digits to be shown,
it tells none.
-/

namespace SourceConventions

namespace Rules

/-- A literal is compared with what has the name of a retry counter. -/
def ComparedWithRetry (l : LiteralFact) : Prop :=
  l.context = .comparison ∧ ∃ name, l.compared = some name ∧ isRetryName name = true

/-- A literal is a number that needs a name. -/
structure NeedsName (allowed : List Numeral) (threshold : Nat) (l : LiteralFact) (n : Numeral) :
    Prop where
  value : l.value = .number n
  unnamed : l.isNamedConstant = false
  inLogic : l.context = .comparison ∨ l.context = .arithmetic ∨ l.context = .default
  unusual : ∀ m ∈ canonicalNumbers ++ allowed, ¬ n.SameValue m
  reaches : ComparedWithRetry l → n.Reaches threshold

/-- A finding is the one that tells a number. -/
def Tells (path : String) (l : LiteralFact) (n : Numeral) (f : Finding) : Prop :=
  ∃ shown, n.text? = some shown ∧
    f = finding .magicNumber path l.pos l.enclosing (magicMessage l shown)

variable {allowed : List Numeral} {threshold : Nat} {path : String} {l : LiteralFact} {n : Numeral}

theorem isRetryComparison_iff : isRetryComparison l = true ↔ ComparedWithRetry l := by
  rw [isRetryComparison, ComparedWithRetry, Bool.and_eq_true, decide_eq_true_iff,
    Option.any_eq_true]

theorem isSome_contextLabel?_iff :
    (contextLabel? l.context).isSome = true ↔
      l.context = .comparison ∨ l.context = .arithmetic ∨ l.context = .default := by
  cases l.context <;> simp [contextLabel?]

/-- A number that none of some numbers is the same as has not the value of any of them. -/
theorem not_any_same_iff {ms : List Numeral} :
    (!ms.any n.same) = true ↔ ∀ m ∈ ms, ¬ n.SameValue m := by
  simp [Numeral.same_iff]

theorem isMagic_iff :
    isMagic allowed (.integer threshold) l = true ↔ ∃ n, NeedsName allowed threshold l n := by
  rw [isMagic]
  cases hvalue : l.value with
  | text s =>
    refine ⟨fun h => absurd h Bool.false_ne_true, ?_⟩
    rintro ⟨n, h⟩
    cases hvalue.symm.trans h.value
  | number n =>
    have hreaches : (!isRetryComparison l || n.abs.atLeast (.integer threshold)) = true ↔
        (ComparedWithRetry l → n.Reaches threshold) := by
      rw [Bool.or_eq_true, Bool.not_eq_true', ← Bool.not_eq_true, isRetryComparison_iff,
        Numeral.abs_atLeast_iff, imp_iff_not_or]
    dsimp only
    rw [Bool.and_eq_true, Bool.and_eq_true, Bool.and_eq_true, Bool.not_eq_true',
      isSome_contextLabel?_iff, not_any_same_iff, hreaches]
    constructor
    · rintro ⟨⟨⟨hunnamed, hlogic⟩, hunusual⟩, hreaches⟩
      exact ⟨n, hvalue, hunnamed, hlogic, hunusual, hreaches⟩
    · rintro ⟨m, h⟩
      obtain rfl : n = m := LiteralValue.number.inj (hvalue.symm.trans h.value)
      exact ⟨⟨⟨h.unnamed, h.inLogic⟩, h.unusual⟩, h.reaches⟩

/-- A number below zero reaches a threshold by its distance from zero. -/
example : isMagic [] (.integer 2)
    ⟨.number (.integer (-5)), "f", false, .comparison, some "attempts", ⟨1, 0⟩⟩ = true := by
  decide

/-- A literal that needs a name is told if its number can be shown. -/
theorem magicFinding_of_needsName (path : String) (h : NeedsName allowed threshold l n) :
    (n.text? = none ∧ magicFinding path l = .error .longInteger) ∨
      ∃ f, magicFinding path l = .ok f ∧ Tells path l n f := by
  rw [magicFinding, h.value]
  dsimp only
  cases htext : n.text? with
  | none => exact .inl ⟨rfl, rfl⟩
  | some shown => exact .inr ⟨_, rfl, shown, htext, rfl⟩

theorem tells_of_magicFinding {f : Finding} (h : NeedsName allowed threshold l n)
    (hf : magicFinding path l = .ok f) : Tells path l n f := by
  rcases magicFinding_of_needsName path h with ⟨-, herror⟩ | ⟨g, hg, htells⟩
  · cases hf.symm.trans herror
  · obtain rfl := Except.ok.inj (hf.symm.trans hg)
    exact htells

/-- The literals that need a name are told, each by one finding and in their order, unless one of
them cannot be shown. -/
theorem magicNumber_cases (allowed : List Numeral) (threshold : Nat) (path : String)
    (facts : Facts) :
    (magicNumber allowed (.integer threshold) path facts = .error .longInteger ∧
        ∃ l ∈ facts.literals, ∃ n, NeedsName allowed threshold l n ∧ n.text? = none) ∨
      ∃ fs, magicNumber allowed (.integer threshold) path facts = .ok fs ∧
        List.Forall₂ (fun l f => ∃ n, NeedsName allowed threshold l n ∧ Tells path l n f)
          (facts.literals.filter (isMagic allowed (.integer threshold))) fs := by
  cases hfound : magicNumber allowed (.integer threshold) path facts with
  | error e =>
    have hstuck : ¬ ∃ fs, magicNumber allowed (.integer threshold) path facts = .ok fs := by
      rintro ⟨fs, hfs⟩
      cases hfound.symm.trans hfs
    rw [magicNumber_ok_iff] at hstuck
    obtain ⟨l, hl, hlong⟩ : ∃ l ∈ facts.literals, Unshowable allowed (.integer threshold) l := by
      simpa using hstuck
    obtain ⟨n, hneeds⟩ := isMagic_iff.mp hlong.1
    obtain ⟨e', he'⟩ : ∃ e, magicFinding path l = .error e :=
      (magicFinding_error_iff hlong.1).mpr hlong
    cases e
    refine .inl ⟨rfl, l, hl, n, hneeds, ?_⟩
    rcases magicFinding_of_needsName path hneeds with ⟨hnone, -⟩ | ⟨f, hf, -⟩
    · exact hnone
    · cases he'.symm.trans hf
  | ok fs =>
    refine .inr ⟨fs, rfl, ?_⟩
    have hmagic : ∀ l ∈ facts.literals.filter (isMagic allowed (.integer threshold)),
        ∃ n, NeedsName allowed threshold l n :=
      fun l hl => isMagic_iff.mp (List.mem_filter.mp hl).2
    rw [magicNumber, Traversal.mapM_eq_ok_iff] at hfound
    refine ((List.forall₂_and_left _ _).mpr ⟨hmagic, hfound⟩).imp ?_
    rintro l f ⟨⟨n, hneeds⟩, hf⟩
    exact ⟨n, hneeds, tells_of_magicFinding hneeds hf⟩

end Rules

namespace Analysis

/-- What a rule finds in a text is what it finds in its facts. -/
theorem exists_facts_of_mem {s : Settings} {path text : String} {stoodFor : List (List Char)}
    {r : Rule} {f : Finding} (hr : r ≠ .parseError)
    (hf : f ∈ (ofText s path stoodFor text).1.findings) (hrule : f.rule = r.id) :
    ∃ facts fs, HasFacts s stoodFor text facts ∧ findingsOf s path facts r = .ok fs ∧ f ∈ fs := by
  have hfault (fault : ParseFault) : f ∉ fault.result.findings := by
    intro h
    obtain rfl := List.mem_singleton.mp h
    exact hr (Rule.id_injective hrule.symm)
  rw [ofText] at hf
  cases htree : Syntax.programOf stoodFor text with
  | error refusal =>
    rw [htree] at hf
    exact absurd hf (hfault _)
  | ok tree =>
    rw [htree] at hf
    dsimp only at hf
    rw [ofTree] at hf
    cases hfacts : Facts.ofTree s.verbs (Suppressions.ofText text) tree with
    | error fault =>
      rw [hfacts] at hf
      exact absurd hf (hfault _)
    | ok facts =>
      rw [hfacts] at hf
      dsimp only at hf
      cases hjudge : judge s path facts with
      | error fault =>
        rw [hjudge] at hf
        exact absurd hf (hfault _)
      | ok all =>
        rw [hjudge] at hf
        obtain ⟨lists, hlists, rfl⟩ := judge_eq_ok_iff.mp hjudge
        obtain ⟨fs, hfs, hmem⟩ := List.mem_flatten.mp (List.mem_filter.mp hf).1
        obtain ⟨rule, -, hfound⟩ := Traversal.exists_of_mem_answers hlists hfs
        have hsame : rule = r :=
          Rule.id_injective ((findingsOf_ofRule hfound hmem).rule.symm.trans hrule)
        exact ⟨facts, fs, ⟨tree, htree, hfacts⟩, hsame ▸ hfound, hmem⟩

end Analysis

namespace Rules

/-- The rule about numbers tells the numbers that need a name and no others, unless it comes upon
one that cannot be shown. So under all settings no text has a finding about zero, one or minus one,
however they are written. -/
theorem magicNumber_tells_needed (s : Settings) (path : String) :
    (∀ l, isMagic s.allowedNumbers (.integer s.retryThreshold) l = true ↔
        ∃ n, NeedsName s.allowedNumbers s.retryThreshold l n) ∧
      (∀ facts : Facts,
        (∃ l ∈ facts.literals, ∃ n,
            NeedsName s.allowedNumbers s.retryThreshold l n ∧ n.text? = none) ∧
          magicNumber s.allowedNumbers (.integer s.retryThreshold) path facts =
            .error .longInteger ∨
        ∃ fs, magicNumber s.allowedNumbers (.integer s.retryThreshold) path facts = .ok fs ∧
          List.Forall₂
            (fun l f => ∃ n, NeedsName s.allowedNumbers s.retryThreshold l n ∧ Tells path l n f)
            (facts.literals.filter (isMagic s.allowedNumbers (.integer s.retryThreshold))) fs) ∧
      ∀ stoodFor text, ∀ f ∈ (Analysis.ofText s path stoodFor text).1.findings,
        f.rule = Rule.magicNumber.id →
        ∃ facts l n, Analysis.HasFacts s stoodFor text facts ∧ l ∈ facts.literals ∧
          NeedsName s.allowedNumbers s.retryThreshold l n ∧ Tells path l n f ∧
          ∀ m ∈ [Numeral.integer 0, .integer 1, .integer (-1)], ¬ n.SameValue m := by
  refine ⟨fun l => isMagic_iff, fun facts => ?_, fun stoodFor text f hf hrule => ?_⟩
  · exact (magicNumber_cases s.allowedNumbers s.retryThreshold path facts).imp_left And.symm
  · obtain ⟨facts, fs, hfacts, hfs, hmem⟩ :=
      Analysis.exists_facts_of_mem (by decide) hf hrule
    obtain ⟨l, hl, hfound⟩ := Traversal.exists_of_mem_answers hfs hmem
    obtain ⟨hl, hmagic⟩ := List.mem_filter.mp hl
    obtain ⟨n, hneeds⟩ := isMagic_iff.mp hmagic
    exact ⟨facts, l, n, hfacts, hl, hneeds, tells_of_magicFinding hneeds hfound,
      fun m hm => hneeds.unusual m (List.mem_append_left _ hm)⟩

end Rules

end SourceConventions
