import SourceConventions.Proofs.Analysis.Result

/-!
# What one rule takes from another

The findings of a rule on a text do not depend on which other rules are on, with one exception: when
the rule about numbers comes upon a number that has too many digits to be shown, its fault takes the
place of all findings.
-/

namespace SourceConventions

/-- Settings that differ at most in which rules of single files are on and where they are from. -/
structure Settings.AlikeButFileRules (s s' : Settings) : Prop where
  exclude : s'.exclude = s.exclude
  retryThreshold : s'.retryThreshold = s.retryThreshold
  genericStatements : s'.genericStatements = s.genericStatements
  verbs : s'.verbs = s.verbs
  genericNames : s'.genericNames = s.genericNames
  requiredDirectories : s'.requiredDirectories = s.requiredDirectories
  allowedNumbers : s'.allowedNumbers = s.allowedNumbers
  publicOnly : s'.publicOnly = s.publicOnly
  severities : s'.severities = s.severities
  enabled : ∀ r : Rule, r.scope ≠ .file → s'.isEnabled r.id = s.isEnabled r.id

/-- The findings of a rule among others, in their order. -/
def Rule.among (r : Rule) (fs : List Finding) : List Finding := fs.filter (·.rule == r.id)

theorem Rule.among_eq_self {r : Rule} {fs : List Finding} (h : ∀ f ∈ fs, f.rule = r.id) :
    r.among fs = fs := by
  rw [among, List.filter_eq_self]
  exact fun f hf => beq_iff_eq.mpr (h f hf)

theorem Rule.among_eq_nil {r : Rule} {fs : List Finding} (h : ∀ f ∈ fs, f.rule ≠ r.id) :
    r.among fs = [] := by
  rw [among, List.filter_eq_nil_iff]
  exact fun f hf hr => h f hf (beq_iff_eq.mp hr)

namespace Rules

/-- A literal that the rule about numbers would report if it could show the number. -/
def Unshowable (allowed : List Numeral) (threshold : Numeral) (l : LiteralFact) : Prop :=
  isMagic allowed threshold l = true ∧
    ∃ n, l.value = .number (.integer n) ∧ Numeral.maxDigits < (Nat.toDigits 10 n.natAbs).length

variable {allowed : List Numeral} {threshold : Numeral} {path : String} {facts : Facts}

theorem magicFinding_error_iff {l : LiteralFact} (h : isMagic allowed threshold l = true) :
    (∃ e, magicFinding path l = .error e) ↔ Unshowable allowed threshold l := by
  rw [Unshowable, magicFinding]
  cases hvalue : l.value with
  | text t => simp
  | number n =>
    cases n with
    | integer i =>
      by_cases hdigits : Numeral.maxDigits < (Nat.toDigits 10 i.natAbs).length
      · simpa [Numeral.text?, Numeral.integerText?, hdigits, h] using ⟨.longInteger⟩
      · simp [Numeral.text?, Numeral.integerText?, hdigits]
    | real x => simp [Numeral.text?]
    | imaginary negated x => simp [Numeral.text?]

theorem magicNumber_ok_iff :
    (∃ fs, magicNumber allowed threshold path facts = .ok fs) ↔
      ∀ l ∈ facts.literals, ¬ Unshowable allowed threshold l := by
  rw [magicNumber]
  constructor
  · rintro ⟨fs, hfs⟩ l hl hlong
    obtain ⟨e, he⟩ := (magicFinding_error_iff hlong.1).mpr hlong
    obtain ⟨f, -, hf⟩ := Traversal.exists_answer_of_mem hfs (List.mem_filter.mpr ⟨hl, hlong.1⟩)
    rw [he] at hf
    cases hf
  · intro h
    refine Traversal.exists_mapM_eq_ok fun l hl => ?_
    obtain ⟨hl, hmagic⟩ := List.mem_filter.mp hl
    cases hfinding : magicFinding path l with
    | error e => exact absurd ((magicFinding_error_iff hmagic).mp ⟨e, hfinding⟩) (h l hl)
    | ok f => exact ⟨f, rfl⟩

end Rules

namespace Analysis

variable {s s' : Settings} {path : String} {facts : Facts} {r : Rule}

theorem findingsOf_congr (h : s.AlikeButFileRules s') (path : String) (facts : Facts) (r : Rule) :
    findingsOf s' path facts r = findingsOf s path facts r := by
  cases r <;> simp only [findingsOf, h.genericNames, h.genericStatements, h.allowedNumbers,
    h.retryThreshold, h.publicOnly]

theorem findingsOf_ok (hr : r ≠ .magicNumber) : ∃ fs, findingsOf s path facts r = .ok fs := by
  cases r with
  | magicNumber => exact absurd rfl hr
  | _ => exact ⟨_, rfl⟩

theorem mem_fileRules : r ∈ s.fileRules ↔ r.scope = .file ∧ s.isEnabled r.id = true := by
  simp [Settings.fileRules, Rule.fileRules, Rule.mem_all, and_comm]

/-- Only the rule about numbers can fail. -/
theorem judge_ok_iff :
    (∃ fs, judge s path facts = .ok fs) ↔
      (s.isEnabled Rule.magicNumber.id = true →
        ∃ fs, findingsOf s path facts .magicNumber = .ok fs) := by
  constructor
  · rintro ⟨fs, hfs⟩ hon
    obtain ⟨lists, hlists, -⟩ := judge_eq_ok_iff.mp hfs
    obtain ⟨l, -, hl⟩ := Traversal.exists_answer_of_mem hlists (mem_fileRules.mpr ⟨rfl, hon⟩)
    exact ⟨l, hl⟩
  · intro h
    have hall : ∀ rule ∈ s.fileRules, ∃ fs, findingsOf s path facts rule = .ok fs := by
      intro rule hrule
      by_cases hmagic : rule = .magicNumber
      · subst hmagic
        exact h (mem_fileRules.mp hrule).2
      · exact findingsOf_ok hmagic
    obtain ⟨lists, hlists⟩ := Traversal.exists_mapM_eq_ok hall
    exact ⟨_, judge_eq_ok_iff.mpr ⟨lists, hlists, rfl⟩⟩

/-- Among the findings of several rules those of one of them are what it has found. -/
theorem among_flatten {rules : List Rule} {lists : List (List Finding)} (hnodup : rules.Nodup)
    (h : rules.mapM (findingsOf s path facts) = .ok lists) :
    (r ∉ rules → r.among lists.flatten = []) ∧
      (r ∈ rules → findingsOf s path facts r = .ok (r.among lists.flatten)) := by
  induction rules generalizing lists with
  | nil =>
    cases h
    exact ⟨fun _ => rfl, nofun⟩
  | cons rule rest ih =>
    obtain ⟨hnot, hrest⟩ := List.nodup_cons.mp hnodup
    obtain ⟨fs, lists, hfs, hlists, rfl⟩ := Traversal.mapM_cons_eq_ok_iff.mp h
    have hsplit : r.among (fs :: lists).flatten = r.among fs ++ r.among lists.flatten := by
      rw [List.flatten_cons, Rule.among, List.filter_append]
      rfl
    have hrule : ∀ f ∈ fs, f.rule = rule.id := fun f hf => (findingsOf_ofRule hfs hf).rule
    rw [hsplit]
    by_cases heq : r = rule
    · subst heq
      refine ⟨fun hr => absurd List.mem_cons_self hr, fun _ => ?_⟩
      rw [(ih hrest hlists).1 hnot, List.append_nil, Rule.among_eq_self hrule]
      exact hfs
    · have hother : r.among fs = [] :=
        Rule.among_eq_nil fun f hf hr => heq (Rule.id_injective (hr.symm.trans (hrule f hf)))
      rw [hother, List.nil_append, List.mem_cons, or_iff_right heq]
      exact ih hrest hlists

theorem among_unsuppressed (r : Rule) (u : Suppressions) (fs : List Finding) :
    r.among (unsuppressed u fs) = unsuppressed u (r.among fs) := by
  rw [Rule.among, Rule.among, unsuppressed, unsuppressed, List.filter_filter, List.filter_filter]
  simp only [Bool.and_comm]

theorem nodup_fileRules : s.fileRules.Nodup :=
  List.Pairwise.filter _ (by decide : Rule.fileRules.Nodup)

/-- The findings of a rule that is on are what it has found and no comment turns off. -/
theorem among_judge {all : List Finding} (hr : s.isEnabled r.id = true)
    (h : judge s path facts = .ok all) :
    ∃ fs, findingsOf s path facts r = .ok fs ∧ r.among all = unsuppressed facts.suppressions fs := by
  obtain ⟨lists, hlists, rfl⟩ := judge_eq_ok_iff.mp h
  obtain ⟨hout, hin⟩ := among_flatten (r := r) nodup_fileRules hlists
  rw [among_unsuppressed]
  by_cases hmem : r ∈ s.fileRules
  · exact ⟨_, hin hmem, rfl⟩
  · have hscope : r.scope ≠ .file := fun hscope => hmem (mem_fileRules.mpr ⟨hscope, hr⟩)
    refine ⟨[], ?_, by rw [hout hmem]⟩
    cases r with
    | requiredDirectory => rfl
    | parseError => rfl
    | _ => exact absurd rfl hscope

/-- The findings of facts: those of the rules, or the one about a rule that has failed. -/
def verdict (s : Settings) (path : String) (facts : Facts) : List Finding :=
  match judge s path facts with
  | .ok fs => fs
  | .error f => [(internalFault path f.text).finding]

theorem findings_ofText {stoodFor : List (List Char)} {text : String} {tree : Syntax.Stmt}
    (htree : Syntax.programOf stoodFor text = .ok tree)
    (hfacts : Facts.ofTree s.verbs (Suppressions.ofText text) tree = .ok facts) :
    (ofText s path stoodFor text).1.findings = verdict s path facts := by
  simp only [ofText, htree, ofTree, hfacts, verdict]
  cases judge s path facts <;> rfl

theorem among_verdict_of_ok (hr : s.isEnabled r.id = true)
    (h : ∃ fs, judge s path facts = .ok fs) :
    ∃ fs, findingsOf s path facts r = .ok fs ∧
      r.among (verdict s path facts) = unsuppressed facts.suppressions fs := by
  obtain ⟨all, hall⟩ := h
  rw [verdict, hall]
  exact among_judge hr hall

theorem verdict_of_error (h : ¬ ∃ fs, judge s path facts = .ok fs) :
    verdict s path facts = [(internalFault path AnalysisFault.longInteger.text).finding] := by
  rw [verdict]
  cases hjudge : judge s path facts with
  | ok fs => exact absurd ⟨fs, hjudge⟩ h
  | error f => cases f; rfl

/-- A rule finds something that no comment turns off; the rule about faults counts as one that
does. -/
def Speaks (s : Settings) (path : String) (facts : Facts) (r : Rule) : Prop :=
  r = .parseError ∨ ∃ fs, findingsOf s path facts r = .ok fs ∧ unsuppressed facts.suppressions fs ≠ []

/-- A failure of one rule takes the findings of another one, or gives it one that it has not. -/
theorem among_of_failure {fault : ParseFault} {fs : List Finding}
    (hfs : findingsOf s path facts r = .ok fs) :
    (¬ Speaks s path facts r ∧
        r.among [fault.finding] = unsuppressed facts.suppressions fs) ∨
      Speaks s path facts r ∧
        (r.among [fault.finding] = [] ∧ unsuppressed facts.suppressions fs ≠ [] ∨
          r.among [fault.finding] ≠ [] ∧ unsuppressed facts.suppressions fs = []) := by
  by_cases hr : r = .parseError
  · subst hr
    cases hfs
    refine .inr ⟨.inl rfl, .inr ⟨?_, rfl⟩⟩
    rw [Rule.among_eq_self fun f hf => by rw [List.mem_singleton.mp hf]; rfl]
    exact List.cons_ne_nil _ _
  · have hnone : r.among [fault.finding] = [] := by
      refine Rule.among_eq_nil fun f hf hrule => hr ?_
      rw [List.mem_singleton.mp hf] at hrule
      exact Rule.id_injective hrule.symm
    by_cases hsilent : unsuppressed facts.suppressions fs = []
    · refine .inl ⟨?_, hnone.trans hsilent.symm⟩
      rintro (h | ⟨fs', hfs', h⟩)
      · exact hr h
      · rw [hfs] at hfs'
        cases hfs'
        exact h hsilent
    · exact .inr ⟨.inr ⟨fs, hfs, hsilent⟩, .inl ⟨hnone, hsilent⟩⟩

/-- What keeps the findings of a rule on facts the same under two settings. It fails if just one of
them has the rule about numbers on, that rule cannot show a number, and the other rule has something
to say. -/
def Undisturbed (s s' : Settings) (r : Rule) (path : String) (facts : Facts) : Prop :=
  (∃ l ∈ facts.literals, Rules.Unshowable s.allowedNumbers (.integer s.retryThreshold) l) →
    s'.isEnabled Rule.magicNumber.id ≠ s.isEnabled Rule.magicNumber.id → ¬ Speaks s path facts r

theorem not_judge_ok_iff (s : Settings) (path : String) (facts : Facts) :
    (¬ ∃ fs, judge s path facts = .ok fs) ↔
      s.isEnabled Rule.magicNumber.id = true ∧
        ∃ l ∈ facts.literals, Rules.Unshowable s.allowedNumbers (.integer s.retryThreshold) l := by
  have hfound : (∃ fs, findingsOf s path facts .magicNumber = .ok fs) ↔
      ∀ l ∈ facts.literals,
        ¬ Rules.Unshowable s.allowedNumbers (.integer s.retryThreshold) l := Rules.magicNumber_ok_iff
  rw [judge_ok_iff, hfound]
  simp

/-- The findings of a rule on facts are the same under two settings that have it on, or one of them
has some and the other one has none. -/
theorem among_verdict (h : s.AlikeButFileRules s') (hr : s.isEnabled r.id = true)
    (hr' : s'.isEnabled r.id = true) (path : String) (facts : Facts) :
    Undisturbed s s' r path facts ∧
        r.among (verdict s path facts) = r.among (verdict s' path facts) ∨
      ¬ Undisturbed s s' r path facts ∧
        (r.among (verdict s path facts) = [] ∧ r.among (verdict s' path facts) ≠ [] ∨
          r.among (verdict s path facts) ≠ [] ∧ r.among (verdict s' path facts) = []) := by
  have hstuck := not_judge_ok_iff s path facts
  have hstuck' := not_judge_ok_iff s' path facts
  rw [h.allowedNumbers, h.retryThreshold] at hstuck'
  by_cases hok : ∃ fs, judge s path facts = .ok fs
  · obtain ⟨fs, hfs, hamong⟩ := among_verdict_of_ok hr hok
    by_cases hok' : ∃ fs, judge s' path facts = .ok fs
    · obtain ⟨fs', hfs', hamong'⟩ := among_verdict_of_ok hr' hok'
      rw [findingsOf_congr h, hfs] at hfs'
      cases hfs'
      refine .inl ⟨fun hlong hdiffer => ?_, hamong.trans hamong'.symm⟩
      have hoff := eq_false_of_ne_true fun hon => hstuck.mpr ⟨hon, hlong⟩ hok
      have hoff' := eq_false_of_ne_true fun hon => hstuck'.mpr ⟨hon, hlong⟩ hok'
      exact absurd (hoff'.trans hoff.symm) hdiffer
    · obtain ⟨hon', hlong⟩ := hstuck'.mp hok'
      have hdiffer : s'.isEnabled Rule.magicNumber.id ≠ s.isEnabled Rule.magicNumber.id :=
        fun heq => hstuck.mpr ⟨heq.symm.trans hon', hlong⟩ hok
      rw [verdict_of_error hok', hamong]
      rcases among_of_failure hfs with ⟨hsilent, heq⟩ | ⟨hspeaks, hone⟩
      · exact .inl ⟨fun _ _ => hsilent, heq.symm⟩
      · exact .inr ⟨fun hall => hall hlong hdiffer hspeaks, hone.symm.imp And.symm And.symm⟩
  · obtain ⟨hon, hlong⟩ := hstuck.mp hok
    by_cases hok' : ∃ fs, judge s' path facts = .ok fs
    · obtain ⟨fs', hfs', hamong'⟩ := among_verdict_of_ok hr' hok'
      have hdiffer : s'.isEnabled Rule.magicNumber.id ≠ s.isEnabled Rule.magicNumber.id :=
        fun heq => hstuck'.mpr ⟨heq.trans hon, hlong⟩ hok'
      rw [findingsOf_congr h] at hfs'
      rw [verdict_of_error hok, hamong']
      rcases among_of_failure hfs' with ⟨hsilent, heq⟩ | ⟨hspeaks, hone⟩
      · exact .inl ⟨fun _ _ => hsilent, heq⟩
      · exact .inr ⟨fun hall => hall hlong hdiffer hspeaks, hone⟩
    · obtain ⟨hon', -⟩ := hstuck'.mp hok'
      rw [verdict_of_error hok, verdict_of_error hok']
      exact .inl ⟨fun _ hdiffer => absurd (hon'.trans hon.symm) hdiffer, rfl⟩

/-- The facts of a text are those of its tree, if it has both. -/
def HasFacts (s : Settings) (stoodFor : List (List Char)) (text : String) (facts : Facts) : Prop :=
  ∃ tree, Syntax.programOf stoodFor text = .ok tree ∧
    Facts.ofTree s.verbs (Suppressions.ofText text) tree = .ok facts

theorem HasFacts.unique {stoodFor : List (List Char)} {text : String} {facts' : Facts}
    (h : HasFacts s stoodFor text facts) (h' : HasFacts s stoodFor text facts') : facts = facts' := by
  obtain ⟨tree, htree, hfacts⟩ := h
  obtain ⟨tree', htree', hfacts'⟩ := h'
  rw [htree] at htree'
  cases htree'
  rw [hfacts] at hfacts'
  exact Except.ok.inj hfacts'

/-- A text without facts has one finding that is the same for all settings. -/
theorem facts_or_same (h : s.AlikeButFileRules s') (path : String) (stoodFor : List (List Char))
    (text : String) :
    (∃ facts, HasFacts s stoodFor text facts) ∨
      (¬ ∃ facts, HasFacts s stoodFor text facts) ∧
        (ofText s path stoodFor text).1 = (ofText s' path stoodFor text).1 := by
  by_cases hfacts : ∃ facts, HasFacts s stoodFor text facts
  · exact .inl hfacts
  refine .inr ⟨hfacts, ?_⟩
  rw [ofText, ofText]
  cases htree : Syntax.programOf stoodFor text with
  | error refusal => rfl
  | ok tree =>
    cases hof : Facts.ofTree s.verbs (Suppressions.ofText text) tree with
    | ok facts => exact absurd ⟨facts, tree, htree, hof⟩ hfacts
    | error fault => simp only [ofTree, h.verbs, hof]

/-- The findings of a rule on a text are the same under two settings that have it on, or one of them
has some and the other one has none. -/
theorem among_ofText (h : s.AlikeButFileRules s') (hr : s.isEnabled r.id = true)
    (hr' : s'.isEnabled r.id = true) (path : String) (stoodFor : List (List Char)) (text : String) :
    (∀ facts, HasFacts s stoodFor text facts → Undisturbed s s' r path facts) ∧
        r.among (ofText s path stoodFor text).1.findings =
          r.among (ofText s' path stoodFor text).1.findings ∨
      (¬ ∀ facts, HasFacts s stoodFor text facts → Undisturbed s s' r path facts) ∧
        (r.among (ofText s path stoodFor text).1.findings = [] ∧
            r.among (ofText s' path stoodFor text).1.findings ≠ [] ∨
          r.among (ofText s path stoodFor text).1.findings ≠ [] ∧
            r.among (ofText s' path stoodFor text).1.findings = []) := by
  rcases facts_or_same h path stoodFor text with ⟨facts, hfacts⟩ | ⟨hnone, hsame⟩
  case inr => exact .inl ⟨fun facts hfacts => absurd ⟨facts, hfacts⟩ hnone, by rw [hsame]⟩
  have hthese : (∀ facts, HasFacts s stoodFor text facts → Undisturbed s s' r path facts) ↔
      Undisturbed s s' r path facts :=
    ⟨fun hall => hall facts hfacts, fun hone facts' hfacts' => hfacts.unique hfacts' ▸ hone⟩
  obtain ⟨tree, htree, hof⟩ := hfacts
  have hof' : Facts.ofTree s'.verbs (Suppressions.ofText text) tree = .ok facts := by
    rw [h.verbs]
    exact hof
  rw [findings_ofText htree hof, findings_ofText htree hof', hthese]
  exact among_verdict h hr hr' path facts

end Analysis

end SourceConventions
