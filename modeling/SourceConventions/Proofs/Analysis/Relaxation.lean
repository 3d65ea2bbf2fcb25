import SourceConventions.Proofs.Analysis.Independence
import SourceConventions.Proofs.Facts.Verbs
import SourceConventions.Settings.OfTable

/-!
# Relaxed settings

Settings are relaxed by allowing more numbers, judging fewer names or only larger scopes, knowing
more verbs, or asking for the annotations of public names only. What is then found in a text was
found before, with two exceptions. A number that cannot be shown takes the place of all findings as
long as it needs a name. And of the variables that share the name of a scope and their own only the
first one that a rule objects to is told: if the settings let that one pass, another one comes to
light.
-/

namespace SourceConventions

open Syntax (ScopeKind)

/-! ### Numbers -/

namespace Number.Binary64

/-- A number that is not below an integer is not below a lesser one. -/
theorem compareInt?_of_le {x : Binary64} {m n : Int} (hmn : m ≤ n)
    (h : x.compareInt? n = some .gt ∨ x.compareInt? n = some .eq) :
    x.compareInt? m = some .gt ∨ x.compareInt? m = some .eq := by
  cases x with
  | undefined => rcases h with h | h <;> cases h
  | infinite negative => exact h
  | finite negative mantissa exponent =>
    rw [compareInt?, ratio?] at h ⊢
    dsimp only at h ⊢
    generalize (if 0 ≤ exponent then (mantissa * Nat.pow 2 exponent.toNat, 1)
      else (mantissa, Nat.pow 2 (-exponent).toNat)) = parts at h ⊢
    obtain ⟨num, den⟩ := parts
    dsimp only at h ⊢
    generalize (if negative = true then -(num : Int) else (num : Int)) = a at h ⊢
    have hle : n * den ≤ a := by
      rcases h with h | h
      · exact Int.le_of_lt (Int.compare_eq_gt.mp (Option.some.inj h))
      · exact Int.le_of_eq (Int.compare_eq_eq.mp (Option.some.inj h)).symm
    have hm : m * den ≤ a :=
      Int.le_trans (Int.mul_le_mul_of_nonneg_right hmn (Int.natCast_nonneg den)) hle
    rcases Int.lt_or_eq_of_le hm with hlt | heq
    · exact .inl (congrArg some (Int.compare_eq_gt.mpr hlt))
    · exact .inr (congrArg some (Int.compare_eq_eq.mpr heq.symm))

end Number.Binary64

/-- A magnitude that reaches a number reaches a lesser one. -/
theorem Numeral.atLeast_of_le {n : Numeral} {least least' : Nat} (hle : least ≤ least')
    (h : n.abs.atLeast (.integer least') = true) : n.abs.atLeast (.integer least) = true := by
  have hcast : (least : Int) ≤ least' := Int.ofNat_le.mpr hle
  have hreal (x : Number.Binary64) (hx : (Numeral.real x).atLeast (.integer least') = true) :
      (Numeral.real x).atLeast (.integer least) = true := by
    rw [atLeast, below, same, Bool.or_eq_true, beq_iff_eq, beq_iff_eq] at hx ⊢
    exact Number.Binary64.compareInt?_of_le hcast hx
  cases n with
  | integer i =>
    simp only [abs, atLeast, below, same, Bool.or_eq_true, decide_eq_true_eq, beq_iff_eq] at h ⊢
    omega
  | real x => exact hreal x.abs h
  | imaginary negated x => exact hreal x.abs h

/-! ### Rules -/

/-- Settings of which the second ones ask for no more than the first ones. -/
structure Settings.Relaxes (s s' : Settings) : Prop where
  allowedNumbers : ∀ n : Numeral, s.allowedNumbers.any n.same = true →
    s'.allowedNumbers.any n.same = true
  retryThreshold : s.retryThreshold ≤ s'.retryThreshold
  genericNames : s'.genericNames ⊆ s.genericNames
  genericStatements : s.genericStatements ≤ s'.genericStatements
  verbs : s.verbs ⊆ s'.verbs
  verbs_nil : s.verbs = [] → s'.verbs = []
  publicOnly : s.publicOnly = true → s'.publicOnly = true
  isEnabled : ∀ r : Rule, s'.isEnabled r.id = s.isEnabled r.id

namespace Rules

/-- What is the first one of its key has none of that key before it. -/
theorem mem_firstOfKey_go {vs : List VariableFact} {v : VariableFact}
    {seen : List (String × String)} :
    v ∈ firstOfKey.go seen vs ↔ scopeKey v ∉ seen ∧
      ∃ front back, vs = front ++ v :: back ∧ ∀ w ∈ front, scopeKey w ≠ scopeKey v := by
  induction vs generalizing seen with
  | nil => simp [firstOfKey.go]
  | cons first rest ih =>
    rw [firstOfKey.go]
    by_cases hseen : scopeKey first ∈ seen
    · rw [if_pos (List.contains_iff_mem.mpr hseen), ih]
      refine and_congr_right fun hv => ⟨?_, ?_⟩
      · rintro ⟨front, back, rfl, hfront⟩
        refine ⟨first :: front, back, rfl, List.forall_mem_cons.mpr ⟨?_, hfront⟩⟩
        exact fun heq => hv (heq ▸ hseen)
      · rintro ⟨front, back, hsplit, hfront⟩
        cases front with
        | nil => exact absurd ((List.cons.inj hsplit).1 ▸ hseen) hv
        | cons w others =>
          obtain ⟨rfl, rfl⟩ := List.cons.inj hsplit
          exact ⟨others, back, rfl, (List.forall_mem_cons.mp hfront).2⟩
    · rw [if_neg fun h => hseen (List.contains_iff_mem.mp h), List.mem_cons, ih, List.mem_cons, not_or]
      constructor
      · rintro (rfl | ⟨⟨hne, hv⟩, front, back, rfl, hfront⟩)
        · exact ⟨hseen, [], rest, rfl, fun w hw => absurd hw List.not_mem_nil⟩
        · exact ⟨hv, first :: front, back, rfl, List.forall_mem_cons.mpr ⟨Ne.symm hne, hfront⟩⟩
      · rintro ⟨hv, front, back, hsplit, hfront⟩
        cases front with
        | nil => exact .inl (List.cons.inj hsplit).1.symm
        | cons w others =>
          obtain ⟨rfl, rfl⟩ := List.cons.inj hsplit
          obtain ⟨hne, hothers⟩ := List.forall_mem_cons.mp hfront
          exact .inr ⟨⟨Ne.symm hne, hv⟩, others, back, rfl, hothers⟩

/-- Of the variables that are objected to a variable is the first one of its key if none before it
is objected to and has its key. -/
theorem mem_firstOfKey_filter_iff {vs : List VariableFact} {v : VariableFact}
    {p : VariableFact → Bool} :
    v ∈ firstOfKey (vs.filter p) ↔ p v = true ∧
      ∃ front back, vs = front ++ v :: back ∧ ∀ w ∈ front, p w = true → scopeKey w ≠ scopeKey v := by
  rw [firstOfKey, mem_firstOfKey_go, and_iff_right List.not_mem_nil]
  constructor
  · rintro ⟨front, back, hsplit, hfront⟩
    obtain ⟨before, rest, rfl, rfl, hrest⟩ := List.filter_eq_append_iff.mp hsplit
    obtain ⟨between, after, rfl, hbetween, hv, -⟩ := List.filter_eq_cons_iff.mp hrest
    refine ⟨hv, before ++ between, after, by rw [List.append_assoc], fun w hw hpw => ?_⟩
    rcases List.mem_append.mp hw with hw | hw
    · exact hfront w (List.mem_filter.mpr ⟨hw, hpw⟩)
    · exact absurd hpw (hbetween w hw)
  · rintro ⟨hv, front, back, rfl, hfront⟩
    refine ⟨front.filter p, back.filter p, by rw [List.filter_append, List.filter_cons_of_pos hv], ?_⟩
    intro w hw
    obtain ⟨hw, hpw⟩ := List.mem_filter.mp hw
    exact hfront w hw hpw

/-- If fewer variables are objected to, one that is told then is told before as well, unless another
one of its key has been let pass. -/
theorem mem_firstOfKey_of_imp {vs : List VariableFact} {v : VariableFact}
    {p p' : VariableFact → Bool} (hp : ∀ w, p' w = true → p w = true)
    (hv : v ∈ firstOfKey (vs.filter p')) :
    v ∈ firstOfKey (vs.filter p) ∨ v ∈ vs ∧ p' v = true ∧
      ∃ w ∈ vs, scopeKey w = scopeKey v ∧ p w = true ∧ p' w = false := by
  obtain ⟨hpv, front, back, rfl, hfront⟩ := mem_firstOfKey_filter_iff.mp hv
  by_cases hfirst : ∀ w ∈ front, p w = true → scopeKey w ≠ scopeKey v
  · exact .inl (mem_firstOfKey_filter_iff.mpr ⟨hp v hpv, front, back, rfl, hfirst⟩)
  · push Not at hfirst
    obtain ⟨w, hw, hpw, hkey⟩ := hfirst
    refine .inr ⟨by simp, hpv, w, List.mem_append_left _ hw, hkey, hpw, ?_⟩
    exact eq_false_of_ne_true fun hpw' => hfront w hw hpw' hkey

variable {s s' : Settings} {path : String} {facts : Facts} {f : Finding}

/-- A finding that is made of a variable. -/
def TellsOf (r : Rule) (v : VariableFact) (f : Finding) : Prop :=
  f.rule = r.id ∧ f.line = v.pos.line ∧ f.column = some (v.pos.column : Int) ∧
    f.subject = some v.name

/-- That one of two variables of one key passes as relaxed settings have it, and a finding tells of
the other one. -/
def ComesToLight (s s' : Settings) (facts : Facts) (f : Finding) : Prop :=
  ∃ v ∈ facts.bindings, ∃ w ∈ facts.bindings, scopeKey w = scopeKey v ∧
    (TellsOf .genericName v f ∧ s.genericStatements < w.scopeStatements ∧
        w.scopeStatements ≤ s'.genericStatements ∧ s'.genericStatements < v.scopeStatements ∨
      TellsOf .missingHint v f ∧ s.publicOnly = false ∧ s'.publicOnly = true ∧
        w.isPublic = false ∧ v.isPublic = true)

section Relaxed

variable (h : s.Relaxes s')
include h

theorem isGeneric_of_relaxes {v : VariableFact}
    (hv : isGeneric s'.genericNames s'.genericStatements v = true) :
    isGeneric s.genericNames s.genericStatements v = true := by
  simp only [isGeneric, Bool.and_eq_true, List.contains_iff_mem, decide_eq_true_iff] at hv ⊢
  exact ⟨⟨h.genericNames hv.1.1, hv.1.2⟩, Nat.lt_of_le_of_lt h.genericStatements hv.2⟩

theorem genericName_of_relaxes
    (hf : f ∈ genericName s'.genericNames s'.genericStatements path facts) :
    f ∈ genericName s.genericNames s.genericStatements path facts ∨ ComesToLight s s' facts f := by
  obtain ⟨v, hv, rfl⟩ := List.mem_map.mp hf
  rcases mem_firstOfKey_of_imp (fun w => isGeneric_of_relaxes h) hv with
    hfirst | ⟨hmem, hpv, w, hw, hkey, hpw, hpasses⟩
  · exact .inl (List.mem_map.mpr ⟨v, hfirst, rfl⟩)
  refine .inr ⟨v, hmem, w, hw, hkey, .inl ⟨⟨rfl, rfl, rfl, rfl⟩, ?_⟩⟩
  have hname : w.name = v.name := congrArg Prod.snd hkey
  simp only [isGeneric, Bool.and_eq_true, decide_eq_true_iff] at hpv hpw
  refine ⟨hpw.2, ?_, hpv.2⟩
  by_contra hlarge
  rw [Nat.not_le] at hlarge
  have hgeneric : isGeneric s'.genericNames s'.genericStatements w = true := by
    simp only [isGeneric, Bool.and_eq_true, decide_eq_true_iff]
    exact ⟨⟨hname ▸ hpv.1.1, hpw.1.2⟩, hlarge⟩
  rw [hgeneric] at hpasses
  cases hpasses

omit h in
/-- A variable that needs an annotation only as long as private ones do is private. -/
theorem isPublic_of_needsHint {publicOnly publicOnly' : Bool} {v : VariableFact}
    (hv : needsHint publicOnly v = true) (hv' : needsHint publicOnly' v = false) :
    publicOnly = false ∧ publicOnly' = true ∧ v.isPublic = false := by
  rw [needsHint, Bool.and_eq_true] at hv
  rw [needsHint, hv.1, Bool.true_and] at hv'
  obtain ⟨-, hv⟩ := hv
  cases publicOnly <;> cases publicOnly' <;> cases hpublic : v.isPublic <;> simp_all

theorem needsHint_of_relaxes {v : VariableFact} (hv : needsHint s'.publicOnly v = true) :
    needsHint s.publicOnly v = true := by
  rw [needsHint, Bool.and_eq_true] at hv ⊢
  refine ⟨hv.1, ?_⟩
  cases hpublic : s.publicOnly with
  | false => rfl
  | true =>
    rw [h.publicOnly hpublic] at hv
    exact hv.2

theorem functionHint_of_relaxes {fn : FunctionFact}
    (hf : functionHint s'.publicOnly path fn = some f) :
    functionHint s.publicOnly path fn = some f := by
  rw [functionHint] at hf ⊢
  split at hf
  case isTrue => cases hf
  case isFalse hneeds =>
    rw [if_neg]
    · exact hf
    · simp only [Bool.or_eq_true, Bool.and_eq_true] at hneeds ⊢
      exact fun hor => hneeds (hor.imp_left fun hpublic => ⟨h.publicOnly hpublic.1, hpublic.2⟩)

theorem missingHint_of_relaxes (hf : f ∈ missingHint s'.publicOnly path facts) :
    f ∈ missingHint s.publicOnly path facts ∨ ComesToLight s s' facts f := by
  rcases List.mem_append.mp hf with hf | hf
  · obtain ⟨fn, hfn, hhint⟩ := List.mem_filterMap.mp hf
    refine .inl (List.mem_append_left _ (List.mem_filterMap.mpr ⟨fn, hfn, ?_⟩))
    exact functionHint_of_relaxes h hhint
  · obtain ⟨v, hv, rfl⟩ := List.mem_map.mp hf
    have hneeds (w : VariableFact)
        (hw : (needsHint s'.publicOnly w && !(annotatedKeys facts.bindings).contains (scopeKey w)) =
          true) :
        (needsHint s.publicOnly w && !(annotatedKeys facts.bindings).contains (scopeKey w)) = true := by
      rw [Bool.and_eq_true] at hw ⊢
      exact ⟨needsHint_of_relaxes h hw.1, hw.2⟩
    rcases mem_firstOfKey_of_imp hneeds hv with hfirst | ⟨hmem, hpv, w, hw, hkey, hpw, hpasses⟩
    · exact .inl (List.mem_append_right _ (List.mem_map.mpr ⟨v, hfirst, rfl⟩))
    rw [Bool.and_eq_true] at hpw hpv
    rw [hpw.2, Bool.and_true] at hpasses
    obtain ⟨hall, hpublic, hprivate⟩ := isPublic_of_needsHint hpw.1 hpasses
    have hv' : v.isPublic = true := by
      rw [needsHint, Bool.and_eq_true, hpublic] at hpv
      exact hpv.1.2
    exact .inr ⟨v, hmem, w, hw, hkey, .inr ⟨⟨rfl, rfl, rfl, rfl⟩, hall, hpublic, hprivate, hv'⟩⟩

theorem isMagic_of_relaxes {l : LiteralFact}
    (hl : isMagic s'.allowedNumbers (.integer s'.retryThreshold) l = true) :
    isMagic s.allowedNumbers (.integer s.retryThreshold) l = true := by
  rw [isMagic] at hl ⊢
  cases hvalue : l.value with
  | text t => rw [hvalue] at hl; cases hl
  | number n =>
    rw [hvalue] at hl
    dsimp only at hl ⊢
    rw [Bool.and_eq_true, Bool.and_eq_true, Bool.not_eq_true', List.any_append, Bool.or_eq_false_iff] at hl ⊢
    obtain ⟨⟨hplace, hcanonical, hallowed⟩, hretry⟩ := hl
    refine ⟨⟨hplace, hcanonical, ?_⟩, ?_⟩
    · rw [Bool.eq_false_iff] at hallowed ⊢
      exact fun hin => hallowed (h.allowedNumbers n hin)
    · rw [Bool.or_eq_true] at hretry ⊢
      exact hretry.imp_right (Numeral.atLeast_of_le h.retryThreshold)

theorem unshowable_of_relaxes {l : LiteralFact}
    (hl : Unshowable s'.allowedNumbers (.integer s'.retryThreshold) l) :
    Unshowable s.allowedNumbers (.integer s.retryThreshold) l :=
  ⟨isMagic_of_relaxes h hl.1, hl.2⟩

theorem magicNumber_of_relaxes {fs fs' : List Finding}
    (hfs : magicNumber s.allowedNumbers (.integer s.retryThreshold) path facts = .ok fs)
    (hfs' : magicNumber s'.allowedNumbers (.integer s'.retryThreshold) path facts = .ok fs')
    (hf : f ∈ fs') : f ∈ fs := by
  obtain ⟨l, hl, hfinding⟩ := Traversal.exists_of_mem_answers hfs' hf
  obtain ⟨hl, hmagic⟩ := List.mem_filter.mp hl
  obtain ⟨g, hg, hsame⟩ := Traversal.exists_answer_of_mem hfs
    (List.mem_filter.mpr ⟨hl, isMagic_of_relaxes h hmagic⟩)
  rw [hfinding] at hsame
  exact Except.ok.inj hsame ▸ hg

theorem verbPrefix_of_relaxes (hf : f ∈ verbPrefix path (facts.judgedBy s'.verbs)) :
    f ∈ verbPrefix path (facts.judgedBy s.verbs) := by
  obtain ⟨fn, hfn, rfl⟩ := List.mem_map.mp hf
  obtain ⟨hfn, hrejected⟩ := List.mem_filter.mp hfn
  obtain ⟨g, hg, rfl⟩ := List.mem_map.mp hfn
  refine List.mem_map.mpr ⟨g.judgedBy s.verbs, List.mem_filter.mpr ⟨List.mem_map_of_mem hg, ?_⟩, rfl⟩
  rw [decide_eq_true_iff] at hrejected ⊢
  exact FunctionFact.startsWithVerb?_of_subset h.verbs h.verbs_nil hrejected

end Relaxed

/-! ### Rules that no verbs matter to -/

@[simp] theorem snakeCase_judgedBy (verbs : List String) :
    snakeCase path (facts.judgedBy verbs) = snakeCase path facts := by
  rw [snakeCase, snakeCase, Facts.judgedBy, List.flatMap_map]
  rfl

@[simp] theorem missingHint_judgedBy (publicOnly : Bool) (verbs : List String) :
    missingHint publicOnly path (facts.judgedBy verbs) = missingHint publicOnly path facts := by
  rw [missingHint, missingHint, Facts.judgedBy, List.filterMap_map]
  rfl

end Rules

namespace Analysis

variable {s s' : Settings} {path : String} {facts : Facts} {f : Finding}

/-- What a rule finds under relaxed settings it has found before, or it comes to light. -/
theorem findingsOf_of_relaxes (h : s.Relaxes s') {r : Rule} {fs fs' : List Finding}
    (hfs : findingsOf s path (facts.judgedBy s.verbs) r = .ok fs)
    (hfs' : findingsOf s' path (facts.judgedBy s'.verbs) r = .ok fs') (hf : f ∈ fs') :
    f ∈ fs ∨ Rules.ComesToLight s s' facts f := by
  cases r with
  | snakeCase =>
    cases hfs; cases hfs'
    rw [Rules.snakeCase_judgedBy] at hf ⊢
    exact .inl hf
  | verbPrefix =>
    cases hfs; cases hfs'
    exact .inl (Rules.verbPrefix_of_relaxes h hf)
  | genericName =>
    cases hfs; cases hfs'
    exact Rules.genericName_of_relaxes h hf
  | magicNumber =>
    have hfound : f ∈ fs := Rules.magicNumber_of_relaxes h hfs hfs' hf
    exact .inl hfound
  | missingHint =>
    cases hfs; cases hfs'
    rw [Rules.missingHint_judgedBy] at hf ⊢
    exact Rules.missingHint_of_relaxes h hf
  | requiredDirectory | parseError => cases hfs'; cases hf

/-- What is found in facts under relaxed settings has been found before, or it comes to light, or a
number cannot be shown. -/
theorem verdict_of_relaxes (h : s.Relaxes s')
    (hf : f ∈ verdict s' path (facts.judgedBy s'.verbs)) :
    f ∈ verdict s path (facts.judgedBy s.verbs) ∨ Rules.ComesToLight s s' facts f ∨
      s.isEnabled Rule.magicNumber.id = true ∧
        ∃ l ∈ facts.literals, Rules.Unshowable s.allowedNumbers (.integer s.retryThreshold) l := by
  by_cases hok : ∃ fs, judge s path (facts.judgedBy s.verbs) = .ok fs
  case neg => exact .inr (.inr ((not_judge_ok_iff s path (facts.judgedBy s.verbs)).mp hok))
  have hok' : ∃ fs, judge s' path (facts.judgedBy s'.verbs) = .ok fs := by
    by_contra hstuck
    obtain ⟨hon, l, hl, hlong⟩ := (not_judge_ok_iff s' path _).mp hstuck
    refine (not_judge_ok_iff s path (facts.judgedBy s.verbs)).mpr ⟨?_, l, hl, ?_⟩ hok
    · exact (h.isEnabled .magicNumber).symm.trans hon
    · exact Rules.unshowable_of_relaxes h hlong
  obtain ⟨fs, hfs⟩ := hok
  obtain ⟨fs', hfs'⟩ := hok'
  rw [verdict, hfs'] at hf
  rw [verdict, hfs]
  obtain ⟨lists, hlists, rfl⟩ := judge_eq_ok_iff.mp hfs
  obtain ⟨lists', hlists', rfl⟩ := judge_eq_ok_iff.mp hfs'
  obtain ⟨hf, hkept⟩ := List.mem_filter.mp hf
  obtain ⟨found', hfound', hf⟩ := List.mem_flatten.mp hf
  obtain ⟨r, hr, hof'⟩ := Traversal.exists_of_mem_answers hlists' hfound'
  have hr' : r ∈ s.fileRules := by
    rw [mem_fileRules] at hr ⊢
    exact ⟨hr.1, (h.isEnabled r).symm.trans hr.2⟩
  obtain ⟨found, hfound, hof⟩ := Traversal.exists_answer_of_mem hlists hr'
  rcases findingsOf_of_relaxes h hof hof' hf with hf | hlight
  · exact .inl (List.mem_filter.mpr ⟨List.mem_flatten.mpr ⟨found, hfound, hf⟩, hkept⟩)
  · exact .inr (.inl hlight)

/-- Relaxed settings add a finding only where one variable comes to light behind another one that
shares its name and the name of its scope, or where a number has been in the way that cannot be
shown. -/
theorem finding_of_relaxes (h : s.Relaxes s') (path : String) (stoodFor : List (List Char))
    (text : String) (hf : f ∈ (ofText s' path stoodFor text).1.findings) :
    f ∈ (ofText s path stoodFor text).1.findings ∨
      ∃ facts, HasFacts s stoodFor text facts ∧
        (Rules.ComesToLight s s' facts f ∨
          s.isEnabled Rule.magicNumber.id = true ∧
            ∃ l ∈ facts.literals,
              Rules.Unshowable s.allowedNumbers (.integer s.retryThreshold) l) := by
  cases htree : Syntax.programOf stoodFor text with
  | error refusal =>
    rw [ofText, htree] at hf ⊢
    exact .inl hf
  | ok tree =>
    cases hfacts : Facts.ofTree s.verbs (Suppressions.ofText text) tree with
    | error fault =>
      simp only [ofText, htree, ofTree, Facts.ofTree_error_congr hfacts s'.verbs] at hf
      simp only [ofText, htree, ofTree, hfacts]
      exact .inl hf
    | ok facts =>
      have hown : facts.judgedBy s.verbs = facts :=
        (Except.ok.inj (hfacts.symm.trans (Facts.ofTree_of_ofTree hfacts s.verbs))).symm
      rw [findings_ofText htree (Facts.ofTree_of_ofTree hfacts s'.verbs)] at hf
      rw [findings_ofText htree hfacts]
      have hcases := verdict_of_relaxes h hf
      rw [hown] at hcases
      exact hcases.imp_right fun hother => ⟨facts, ⟨tree, htree, hfacts⟩, hother⟩

/-- Default settings under which generic names are fine in scopes of so many statements. -/
def fineUpTo (statements : Nat) : Settings :=
  { Settings.defaults with genericStatements := statements }

/-- A function that is defined a second time with more statements in it. -/
def definedTwice : String := "def f():\n tmp=1\ndef f():\n tmp=1;a=2\n"

/-- The larger one of two scopes of one name comes to light once the other one is fine. -/
theorem finding_in_definedTwice :
    (fineUpTo 0).Relaxes (fineUpTo 1) ∧
      ∃ f ∈ (ofText (fineUpTo 1) "a.py" [] definedTwice).1.findings,
        f ∉ (ofText (fineUpTo 0) "a.py" [] definedTwice).1.findings ∧
          ∃ facts, HasFacts (fineUpTo 0) [] definedTwice facts ∧
            (Rules.ComesToLight (fineUpTo 0) (fineUpTo 1) facts f ∨
              (fineUpTo 0).isEnabled Rule.magicNumber.id = true ∧
                ∃ l ∈ facts.literals, Rules.Unshowable [] (.integer defaultRetryThreshold) l) := by
  have hrelaxes : (fineUpTo 0).Relaxes (fineUpTo 1) :=
    ⟨fun _ hin => hin, Nat.le_refl _, List.Subset.refl _, Nat.zero_le _, List.Subset.refl _, fun hnil => hnil,
      fun hpublic => hpublic, fun _ => rfl⟩
  have hnew : ∃ f ∈ (ofText (fineUpTo 1) "a.py" [] definedTwice).1.findings,
      f ∉ (ofText (fineUpTo 0) "a.py" [] definedTwice).1.findings := by
    decide +kernel
  obtain ⟨f, hf, hnot⟩ := hnew
  exact ⟨hrelaxes, f, hf, hnot,
    (finding_of_relaxes hrelaxes "a.py" [] definedTwice hf).resolve_left hnot⟩

end Analysis

end SourceConventions
