import SourceConventions.Proofs.Facts.Numbers
import SourceConventions.Proofs.Rules.MagicNumber

/-!
# Numbers in definitions of constants

The innermost statement around a number decides whether the number belongs to the definition of a
constant: it does if all that the statement gives values to are constants, by themselves or in flat
rows, and there is one. All statements of a chain count as one with several targets. The rule about
numbers answers as if these numbers were not there.
-/

namespace SourceConventions

open Syntax

/-! ### The innermost statement around a place -/

namespace Syntax

/-- The first statement among nodes. -/
def InnermostStatement (above : List Node) (s : Stmt) : Prop :=
  s.kind.isStatement = true ∧
    ∃ inner outer, above = inner ++ .stmt s :: outer ∧ ∀ n ∈ inner, n.isStatement = false

theorem find?_isStatement_eq_some_iff {above : List Node} {s : Stmt} :
    above.find? Node.isStatement = some (.stmt s) ↔ InnermostStatement above s := by
  rw [List.find?_eq_some_iff_append]
  simp [InnermostStatement, Node.isStatement]

theorem InnermostStatement.unique {above : List Node} {s t : Stmt}
    (hs : InnermostStatement above s) (ht : InnermostStatement above t) : s = t := by
  rw [← find?_isStatement_eq_some_iff] at hs ht
  exact Node.stmt.inj (Option.some.inj (hs.symm.trans ht))

/-- What is seen of the first statement among nodes holds of the innermost one. -/
theorem exists_innermostStatement_of_any {above : List Node} {seen : Stmt → Bool}
    (h : (above.find? Node.isStatement).any (fun n => match n with
      | .stmt s => seen s
      | .expr _ => false) = true) : ∃ s, InnermostStatement above s ∧ seen s = true := by
  obtain ⟨n, hn, hseen⟩ := (Option.any_eq_true _ _).mp h
  cases n with
  | stmt s => exact ⟨s, find?_isStatement_eq_some_iff.mp hn, hseen⟩
  | expr e => cases hseen

mutual

/-- No statement lies between an expression and what stands in it. -/
theorem Expr.above_of_mem_places {above : List Node} {p : Place} :
    (e : Expr) → p ∈ e.places above →
      ∃ inner, p.above = inner ++ above ∧ ∀ n ∈ inner, n.isStatement = false
  | .mk r k pos c, hp => by
    rcases List.mem_cons.mp hp with rfl | hp
    · exact ⟨[], rfl, by simp⟩
    · obtain ⟨inner, habove, hinner⟩ := Expr.above_of_mem_placesOfAll c hp
      refine ⟨inner ++ [.expr (.mk r k pos c)], by simp [habove], fun n hn => ?_⟩
      rcases List.mem_append.mp hn with hn | hn
      · exact hinner n hn
      · rw [List.mem_singleton.mp hn]
        rfl

theorem Expr.above_of_mem_placesOfAll {above : List Node} {p : Place} :
    (l : List Expr) → p ∈ Expr.placesOfAll above l →
      ∃ inner, p.above = inner ++ above ∧ ∀ n ∈ inner, n.isStatement = false
  | e :: rest, hp => by
    rcases List.mem_append.mp hp with hp | hp
    · exact Expr.above_of_mem_places e hp
    · exact Expr.above_of_mem_placesOfAll rest hp

end

theorem Expr.innermostStatement_of_mem_places {e : Expr} {s : Stmt} {outer : List Node} {p : Place}
    (hs : s.kind.isStatement = true) (hp : p ∈ e.places (.stmt s :: outer)) :
    InnermostStatement p.above s := by
  obtain ⟨inner, habove, hinner⟩ := e.above_of_mem_places hp
  exact ⟨hs, inner, outer, habove, hinner⟩

/-! ### Places of a part of a tree -/

mutual

theorem Stmt.places_subset {s : Stmt} {outer above : List Node} :
    (t : Stmt) → ⟨.stmt s, outer⟩ ∈ t.places above → s.places outer ⊆ t.places above
  | .mk r k pos e b, h => by
    rcases List.mem_cons.mp h with heq | h
    · obtain ⟨rfl, rfl⟩ : s = .mk r k pos e b ∧ outer = above := by simpa using heq
      exact List.Subset.refl _
    · rcases List.mem_append.mp h with h | h
      · obtain ⟨d, hd⟩ := Expr.node_of_mem_placesOfAll e h
        cases hd
      · exact List.subset_cons_of_subset _
          (List.subset_append_of_subset_right _ (Stmt.placesOfAll_subset b h))

theorem Stmt.placesOfAll_subset {s : Stmt} {outer above : List Node} :
    (l : List Stmt) → ⟨.stmt s, outer⟩ ∈ Stmt.placesOfAll above l →
      s.places outer ⊆ Stmt.placesOfAll above l
  | t :: rest, h => by
    rcases List.mem_append.mp h with h | h
    · exact List.subset_append_of_subset_left _ (Stmt.places_subset t h)
    · exact List.subset_append_of_subset_right _ (Stmt.placesOfAll_subset rest h)

end

theorem Expr.places_subset_placesOfAll {above : List Node} {e : Expr} {l : List Expr} (h : e ∈ l) :
    e.places above ⊆ Expr.placesOfAll above l := by
  induction l with
  | nil => cases h
  | cons d rest ih =>
    rcases List.mem_cons.mp h with rfl | h
    · exact List.subset_append_left _ _
    · exact List.subset_append_of_subset_right _ (ih h)

/-- What stands in a part of a statement of a tree stands in the tree. -/
theorem Stmt.places_of_part_subset {tree s : Stmt} {outer : List Node} {e : Expr}
    (hs : ⟨.stmt s, outer⟩ ∈ tree.places []) (he : e ∈ s.parts) :
    e.places (.stmt s :: outer) ⊆ tree.places [] := by
  refine List.Subset.trans ?_ (Stmt.places_subset tree hs)
  obtain ⟨r, k, pos, parts, b⟩ := s
  exact List.subset_cons_of_subset _
    (List.subset_append_of_subset_left _ (Expr.places_subset_placesOfAll he))

end Syntax

/-! ### Statements that define constants -/

/-- A constant that is given a value. -/
def Syntax.Expr.IsConstant (e : Expr) : Prop :=
  ∃ n, e.kind = .binding n ∧ Name.isConstant n = true

/-- A constant, or a row in which nothing but constants stand. -/
inductive Syntax.Expr.IsConstantTarget (e : Expr) : Prop
  | single (h : e.IsConstant)
  | row (hkind : e.kind = .tuple ∨ e.kind = .list) (h : ∀ c ∈ e.children, c.IsConstant)

/-- An assignment, with or without a hint, that gives values to constants only, and to one at
least. -/
structure Syntax.Stmt.DefinesConstants (s : Stmt) : Prop where
  assigns : s.kind = .assign ∨ s.kind = .annotatedAssign ∧ ∃ v, v ∈ s.partsIn .value
  targets : ∀ t ∈ s.partsIn .target, t.IsConstantTarget
  some : ∃ t ∈ s.partsIn .target, t.IsConstant ∨ ∃ c ∈ t.children, c.IsConstant

namespace LiteralFact

/-- The name of an expression that is given a value. -/
theorem exists_boundName_iff {e : Expr} {P : String → Prop} :
    (∃ n, (match e.kind with
        | .binding n => some n
        | _ => none) = some n ∧ P n) ↔ ∃ n, e.kind = .binding n ∧ P n := by
  split <;> simp_all

/-- The names of a constant target can be read off. -/
theorem isConstantTarget_iff {e : Expr} :
    e.IsConstantTarget ↔
      ∃ names, targetNames? e = some names ∧ ∀ n ∈ names, Name.isConstant n = true := by
  have hrow : (∃ names, (e.children.mapM fun c : Expr => match c.kind with
        | .binding n => some n
        | _ => none) = some names ∧ ∀ n ∈ names, Name.isConstant n = true) ↔
      ∀ c ∈ e.children, c.IsConstant := by
    rw [Traversal.exists_mapM_eq_some_iff]
    exact forall₂_congr fun c _ => exists_boundName_iff
  constructor
  · rintro (⟨n, hkind, hn⟩ | ⟨hkind, h⟩)
    · exact ⟨[n], by rw [targetNames?, hkind], by simpa using hn⟩
    · rcases hkind with hkind | hkind <;>
      · rw [targetNames?, hkind]
        exact hrow.mpr h
  · rintro ⟨names, hnames, hconstant⟩
    unfold targetNames? at hnames
    split at hnames
    case h_1 n hkind =>
      obtain rfl := Option.some.inj hnames
      exact .single ⟨n, hkind, hconstant n List.mem_cons_self⟩
    case h_2 hkind => exact .row (.inl hkind) (hrow.mp ⟨names, hnames, hconstant⟩)
    case h_3 hkind => exact .row (.inr hkind) (hrow.mp ⟨names, hnames, hconstant⟩)
    case h_4 => cases hnames

/-- A constant target without a name is an empty row. -/
theorem ne_nil_iff_of_isConstantTarget {e : Expr} {names : List String} (h : e.IsConstantTarget)
    (hnames : targetNames? e = some names) :
    names ≠ [] ↔ e.IsConstant ∨ ∃ c ∈ e.children, c.IsConstant := by
  rcases h with ⟨n, hkind, hn⟩ | ⟨hkind, hall⟩
  · rw [targetNames?, hkind] at hnames
    obtain rfl := Option.some.inj hnames
    exact iff_of_true (List.cons_ne_nil _ _) (.inl ⟨n, hkind, hn⟩)
  · have hlength : e.children.length = names.length := by
      rcases hkind with hkind | hkind <;>
      · rw [targetNames?, hkind] at hnames
        exact (Traversal.mapM_eq_some_iff.mp hnames).length_eq
    have hsome : e.children ≠ [] ↔ ∃ c ∈ e.children, c.IsConstant := by
      constructor
      · intro hne
        obtain ⟨c, hc⟩ := List.exists_mem_of_ne_nil _ hne
        exact ⟨c, hc, hall c hc⟩
      · rintro ⟨c, hc, -⟩
        exact List.ne_nil_of_mem hc
    have hno : ¬ e.IsConstant := by
      rintro ⟨n, hbinding, -⟩
      rcases hkind with hkind | hkind <;> cases hkind.symm.trans hbinding
    rw [or_iff_right hno, ← hsome, ← List.length_pos_iff, ← List.length_pos_iff, hlength]

theorem exists_names_iff (targets : List Expr) :
    ((targets.mapM targetNames?).any fun names =>
        !names.flatten.isEmpty && names.flatten.all Name.isConstant) = true ↔
      (∀ t ∈ targets, t.IsConstantTarget) ∧
        ∃ t ∈ targets, t.IsConstant ∨ ∃ c ∈ t.children, c.IsConstant := by
  have hall : (∃ rows, targets.mapM targetNames? = some rows ∧
      ∀ row ∈ rows, ∀ n ∈ row, Name.isConstant n = true) ↔ ∀ t ∈ targets, t.IsConstantTarget := by
    rw [Traversal.exists_mapM_eq_some_iff]
    exact forall₂_congr fun t _ => isConstantTarget_iff.symm
  have hsome {rows : List (List String)} (hrows : targets.mapM targetNames? = some rows)
      (htargets : ∀ t ∈ targets, t.IsConstantTarget) : rows.flatten ≠ [] ↔
        ∃ t ∈ targets, t.IsConstant ∨ ∃ c ∈ t.children, c.IsConstant := by
    rw [ne_eq, List.flatten_eq_nil_iff, Traversal.forall_mem_answers_iff hrows, not_forall]
    refine exists_congr fun t => ?_
    rw [Classical.not_imp]
    refine and_congr_right fun ht => ?_
    obtain ⟨names, hnames, -⟩ := isConstantTarget_iff.mp (htargets t ht)
    rw [← ne_nil_iff_of_isConstantTarget (htargets t ht) hnames]
    simp [hnames]
  rw [Option.any_eq_true]
  simp only [Bool.and_eq_true, Bool.not_eq_true', List.isEmpty_eq_false_iff, List.all_eq_true,
    List.mem_flatten, forall_exists_index, and_imp]
  constructor
  · rintro ⟨rows, hrows, hne, hconstant⟩
    have htargets := hall.mp ⟨rows, hrows, fun row hrow n hn => hconstant n row hrow hn⟩
    exact ⟨htargets, (hsome hrows htargets).mp hne⟩
  · rintro ⟨htargets, hnamed⟩
    obtain ⟨rows, hrows, hconstant⟩ := hall.mpr htargets
    exact ⟨rows, hrows, (hsome hrows htargets).mpr hnamed,
      fun n row hrow hn => hconstant row hrow n hn⟩

theorem definesConstants_iff {s : Stmt} : definesConstants s = true ↔ s.DefinesConstants := by
  have hvalue : (s.part? .value).isSome = true ↔ ∃ v, v ∈ s.partsIn .value := by
    rw [Stmt.part?, List.find?_isSome]
    simp [Stmt.partsIn]
  rw [definesConstants]
  split
  case h_1 hkind =>
    rw [exists_names_iff]
    exact ⟨fun h => ⟨.inl hkind, h.1, h.2⟩, fun h => ⟨h.targets, h.some⟩⟩
  case h_2 hkind =>
    rw [Bool.and_eq_true, exists_names_iff, hvalue]
    refine ⟨fun h => ⟨.inr ⟨hkind, h.1⟩, h.2.1, h.2.2⟩, fun h => ⟨?_, h.targets, h.some⟩⟩
    rcases h.assigns with hassign | ⟨-, hv⟩
    · cases hkind.symm.trans hassign
    · exact hv
  case h_3 hassign hannotated =>
    refine iff_of_false Bool.false_ne_true fun h => ?_
    rcases h.assigns with hkind | ⟨hkind, -⟩
    · exact hassign hkind
    · exact hannotated hkind

/-! ### Facts about literals in definitions of constants -/

theorem inConstantDefinition_iff {above : List Node} :
    inConstantDefinition above = true ↔ ∃ s, InnermostStatement above s ∧ s.DefinesConstants := by
  rw [inConstantDefinition]
  split
  case h_1 s hs =>
    rw [find?_isStatement_eq_some_iff] at hs
    rw [definesConstants_iff]
    exact ⟨fun h => ⟨s, hs, h⟩, fun ⟨t, ht, h⟩ => hs.unique ht ▸ h⟩
  case h_2 hnone =>
    refine iff_of_false Bool.false_ne_true ?_
    rintro ⟨s, hs, -⟩
    exact hnone s (find?_isStatement_eq_some_iff.mpr hs)

/-- A sign before a number does not part it from the statement around it. -/
theorem inConstantDefinition_numberAnchor (n : Numeral) (e : Expr) (above : List Node) :
    inConstantDefinition (numberAnchor n e above).above = inConstantDefinition above := by
  by_cases h : IsSigned above
  · obtain ⟨s, op, rest, rfl, hkind, hsign⟩ := h
    rw [numberAnchor_of_sign hkind hsign, inConstantDefinition, inConstantDefinition,
      List.find?_cons_of_neg (by simp [Node.isStatement])]
  · rw [numberAnchor_of_not_isSigned h]

theorem isNamedConstant_of_ofPlace? {p : Place} {f : LiteralFact} (h : ofPlace? p = some f) :
    f.isNamedConstant = inConstantDefinition p.above := by
  obtain ⟨h, -⟩ := Option.filter_eq_some_iff.mp h
  obtain ⟨a, ha, rfl⟩ := Option.map_eq_some_iff.mp h
  rw [anchor?] at ha
  split at ha
  case h_2 => cases ha
  case h_1 e _ =>
    split at ha
    case h_1 n _ =>
      obtain rfl := Option.some.inj ha
      exact inConstantDefinition_numberAnchor n e p.above
    case h_2 =>
      obtain rfl := Option.some.inj ha
      rfl
    case h_3 => cases ha

end LiteralFact

/-- The innermost statement around a place defines constants. -/
def Syntax.Place.InConstantDefinition (p : Place) : Prop :=
  ∃ s, InnermostStatement p.above s ∧ s.DefinesConstants

instance : DecidablePred Place.InConstantDefinition := fun _ =>
  decidable_of_iff _ LiteralFact.inConstantDefinition_iff

/-- The literals of a tree that stand in no definition of a constant. -/
def Syntax.Stmt.literalsElsewhere (tree : Stmt) : List LiteralFact :=
  ((tree.places []).filter fun p => ¬ p.InConstantDefinition).filterMap LiteralFact.ofPlace?

theorem LiteralFact.isNamedConstant_iff {p : Place} {f : LiteralFact} (h : ofPlace? p = some f) :
    f.isNamedConstant = true ↔ p.InConstantDefinition := by
  rw [isNamedConstant_of_ofPlace? h]
  exact inConstantDefinition_iff

namespace Rules

theorem isMagic_of_isNamedConstant {l : LiteralFact} (h : l.isNamedConstant = true)
    (allowed : List Numeral) (threshold : Numeral) : isMagic allowed threshold l = false := by
  rw [isMagic]
  cases l.value <;> simp [h]

/-- No literal in the definition of a constant needs a name. -/
theorem filter_isMagic_eq (tree : Stmt) (allowed : List Numeral) (threshold : Numeral) :
    ((tree.places []).filterMap LiteralFact.ofPlace?).filter (isMagic allowed threshold) =
      tree.literalsElsewhere.filter (isMagic allowed threshold) := by
  rw [Stmt.literalsElsewhere, List.filterMap_filter, List.filter_filterMap, List.filter_filterMap]
  refine List.filterMap_congr fun p _ => ?_
  cases hfact : LiteralFact.ofPlace? p with
  | none => simp
  | some f =>
    by_cases hp : p.InConstantDefinition
    · have hmagic := isMagic_of_isNamedConstant ((LiteralFact.isNamedConstant_iff hfact).mpr hp)
        allowed threshold
      simp [hp, hmagic]
    · simp [hp]

theorem magicNumber_eq_elsewhere {verbs : List String} {suppressions : Suppressions} {tree : Stmt}
    {facts : Facts} (hfacts : Facts.ofTree verbs suppressions tree = .ok facts)
    (allowed : List Numeral) (threshold : Numeral) (path : String) :
    magicNumber allowed threshold path facts =
      magicNumber allowed threshold path { facts with literals := tree.literalsElsewhere } := by
  rw [magicNumber, magicNumber, ← (Facts.of_ofTree hfacts).2.2, filter_isMagic_eq]

/-- A literal is marked just if the innermost statement around it defines constants, and then it is
told under no settings. So all that stands in the value of such a statement is let pass, at
whatever depth, and each number that is told stands elsewhere. -/
theorem constants_shield_numbers :
    (∀ p f, LiteralFact.ofPlace? p = some f → ∀ s, InnermostStatement p.above s →
        (f.isNamedConstant = true ↔ s.DefinesConstants)) ∧
      (∀ (tree s : Stmt) outer, ⟨.stmt s, outer⟩ ∈ tree.places [] → s.DefinesConstants →
        ∀ v ∈ s.partsIn .value, ∀ p ∈ v.places (.stmt s :: outer), p ∈ tree.places [] ∧
          ∀ f, LiteralFact.ofPlace? p = some f → f.isNamedConstant = true ∧
            ∀ allowed threshold, isMagic allowed threshold f = false) ∧
      (∀ verbs suppressions tree facts, Facts.ofTree verbs suppressions tree = .ok facts →
        ∀ allowed threshold path, magicNumber allowed threshold path facts =
          magicNumber allowed threshold path { facts with literals := tree.literalsElsewhere }) ∧
      ∀ settings path stoodFor text,
        ∀ f ∈ (Analysis.ofText settings path stoodFor text).1.findings,
          f.rule = Rule.magicNumber.id →
          ∃ tree p l n, programOf stoodFor text = .ok tree ∧ p ∈ tree.places [] ∧
            ¬ p.InConstantDefinition ∧ LiteralFact.ofPlace? p = some l ∧ Tells path l n f := by
  refine ⟨fun p f hfact s hs => ?_, fun tree s outer hs hdefines v hv p hp => ⟨?_, ?_⟩,
    fun _ _ _ _ hfacts => magicNumber_eq_elsewhere hfacts,
    fun s path stoodFor text f hf hrule => ?_⟩
  · rw [LiteralFact.isNamedConstant_iff hfact]
    exact ⟨fun ⟨t, ht, h⟩ => hs.unique ht ▸ h, fun h => ⟨s, hs, h⟩⟩
  · exact Stmt.places_of_part_subset hs (List.mem_filter.mp hv).1 hp
  · intro f hfact
    have hstatement : s.kind.isStatement = true := by
      rcases hdefines.assigns with hkind | ⟨hkind, -⟩ <;> rw [hkind] <;> rfl
    have hmarked : f.isNamedConstant = true := (LiteralFact.isNamedConstant_iff hfact).mpr
      ⟨s, Expr.innermostStatement_of_mem_places hstatement hp, hdefines⟩
    exact ⟨hmarked, isMagic_of_isNamedConstant hmarked⟩
  · obtain ⟨facts, fs, ⟨tree, htree, hfacts⟩, hfs, hmem⟩ :=
      Analysis.exists_facts_of_mem (by decide) hf hrule
    rw [Analysis.findingsOf, magicNumber_eq_elsewhere hfacts] at hfs
    obtain ⟨l, hl, hfound⟩ := Traversal.exists_of_mem_answers hfs hmem
    obtain ⟨hl, hmagic⟩ := List.mem_filter.mp hl
    obtain ⟨n, hneeds⟩ := isMagic_iff.mp hmagic
    obtain ⟨p, hp, hfact⟩ := List.mem_filterMap.mp hl
    obtain ⟨hp, helsewhere⟩ := List.mem_filter.mp hp
    exact ⟨tree, p, l, n, htree, hp, of_decide_eq_true helsewhere, hfact,
      tells_of_magicFinding hneeds hfound⟩

/-- Two numbers in a definition of two constants, one of them in a lambda, and one elsewhere. -/
def mixedNumbers : String := "A,B=lambda y=x>5:y,[x+-7]\nz=x>9\n"

/-- One number is told. -/
theorem constants_in_mixedNumbers :
    ∃ tree facts l f, programOf [] mixedNumbers = .ok tree ∧ Facts.ofTree [] [] tree = .ok facts ∧
      (facts.literals.map fun l => (l.value, l.isNamedConstant)) =
        [(.number (.integer 5), true), (.number (.integer (-7)), true),
          (.number (.integer 9), false)] ∧
      tree.literalsElsewhere = [l] ∧ magicNumber [] (.integer 2) "a.py" facts = .ok [f] ∧
      Tells "a.py" l (.integer 9) f := by
  obtain ⟨tree, facts, htree, hfacts, hseen⟩ := Facts.exists_of_text mixedNumbers
    (fun tree facts => (facts.literals.map fun l => (l.value, l.isNamedConstant)) =
        [(.number (.integer 5), true), (.number (.integer (-7)), true),
          (.number (.integer 9), false)]
      && tree.literalsElsewhere.length = 1
      && tree.literalsElsewhere.all fun l =>
        l.value = .number (.integer 9) && isMagic [] (.integer 2) l)
    (by decide +kernel)
  simp only [Bool.and_eq_true, decide_eq_true_eq] at hseen
  obtain ⟨⟨hliterals, hone⟩, hmagic⟩ := hseen
  obtain ⟨l, hl⟩ := List.length_eq_one_iff.mp hone
  rw [hl, List.all_cons, List.all_nil, Bool.and_true, Bool.and_eq_true, decide_eq_true_eq] at hmagic
  obtain ⟨n, hneeds⟩ := isMagic_iff.mp hmagic.2
  obtain rfl : Numeral.integer 9 = n :=
    LiteralValue.number.inj (hmagic.1.symm.trans hneeds.value)
  have hanswer := constants_shield_numbers.2.2.1 _ _ _ _ hfacts [] (.integer 2) "a.py"
  have hfound : ∃ f, magicFinding "a.py" l = .ok f ∧ Tells "a.py" l (.integer 9) f := by
    rcases magicFinding_of_needsName "a.py" hneeds with ⟨hnone, -⟩ | h
    · exact absurd hnone (by decide)
    · exact h
  obtain ⟨f, hf, htells⟩ := hfound
  refine ⟨tree, facts, l, f, htree, hfacts, hliterals, hl, ?_, htells⟩
  rw [hanswer, magicNumber, hl, List.filter_cons_of_pos hmagic.2]
  exact Traversal.mapM_eq_ok_iff.mpr (.cons hf .nil)

/-- A chain of assignments to constants, and an assignment to an empty row. -/
def chainAndEmptyRow : String := "A=B=x>5\n()=x>7\n"

/-- The number in the chain is marked though two targets follow each other. The other one is not,
though nothing but constants stand in the row, and is told. -/
theorem marked_in_chain :
    ∃ tree five seven, programOf [] chainAndEmptyRow = .ok tree ∧
      (∃ p s, p ∈ tree.places [] ∧ LiteralFact.ofPlace? p = some five ∧
        InnermostStatement p.above s ∧ s.kind = .assign ∧ (s.partsIn .target).length = 2 ∧
        five.isNamedConstant = true) ∧
      ∃ p s, p ∈ tree.places [] ∧ LiteralFact.ofPlace? p = some seven ∧
        InnermostStatement p.above s ∧ s.kind = .assign ∧
        (∀ t ∈ s.partsIn .target, t.IsConstantTarget) ∧
        seven.isNamedConstant = false ∧ isMagic [] (.integer 2) seven = true := by
  obtain ⟨tree, facts, htree, -, hseen⟩ := Facts.exists_of_text chainAndEmptyRow
    (fun tree _ =>
      ((tree.places []).any fun p => (LiteralFact.ofPlace? p).any (·.isNamedConstant)
        && (p.above.find? Node.isStatement).any fun n => match n with
          | .stmt s => s.kind = .assign && (s.partsIn .target).length = 2
          | .expr _ => false)
      && (tree.places []).any fun p =>
        (LiteralFact.ofPlace? p).any (fun l => !l.isNamedConstant && isMagic [] (.integer 2) l)
        && (p.above.find? Node.isStatement).any fun n => match n with
          | .stmt s => s.kind = .assign
            && (s.partsIn .target).all fun t => t.kind = .tuple && t.children.isEmpty
          | .expr _ => false)
    (by decide +kernel)
  rw [Bool.and_eq_true, List.any_eq_true, List.any_eq_true] at hseen
  obtain ⟨⟨p, hp, hchain⟩, q, hq, hrow⟩ := hseen
  rw [Bool.and_eq_true] at hchain hrow
  obtain ⟨five, hfive, hmarked⟩ := (Option.any_eq_true _ _).mp hchain.1
  obtain ⟨s, hs, hassign⟩ := exists_innermostStatement_of_any hchain.2
  obtain ⟨seven, hseven, htold⟩ := (Option.any_eq_true _ _).mp hrow.1
  obtain ⟨t, ht, hempty⟩ := exists_innermostStatement_of_any hrow.2
  simp only [Bool.and_eq_true, decide_eq_true_eq, Bool.not_eq_true', List.all_eq_true,
    List.isEmpty_iff] at hassign htold hempty
  refine ⟨tree, five, seven, htree, ⟨p, s, hp, hfive, hs, hassign.1, hassign.2, hmarked⟩,
    q, t, hq, hseven, ht, hempty.1, fun e he => ?_, htold.1, htold.2⟩
  obtain ⟨hkind, hchildren⟩ := hempty.2 e he
  exact .row (.inl hkind) (by simp [hchildren])

end Rules

end SourceConventions
