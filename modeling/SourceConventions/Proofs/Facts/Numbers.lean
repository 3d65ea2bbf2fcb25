import SourceConventions.Proofs.Facts.Definitions

/-!
# Numbers and what is done with them

A tree has one fact for each number in it. The fact takes up one sign that stands before the number
and no more: of a number behind several signs it has the value with the innermost one, and it does
not tell what is done with the whole.
-/

namespace SourceConventions

open Syntax

/-- A number in a tree, with all signs that stand before it. -/
structure SignedNumber where
  number : Numeral
  /-- The innermost one first. -/
  signs : List UnaryOperator
  /-- The number together with its signs. -/
  expr : Expr
  above : List Node
  deriving Repr

/-- What a sign makes of a number. -/
def Syntax.UnaryOperator.applied (op : UnaryOperator) (n : Numeral) : Numeral :=
  if op = .minus then n.neg else n

namespace SignedNumber

/-- A number with the signs among the nodes above it. -/
def collect (n : Numeral) (e : Expr) : List Node → SignedNumber
  | .expr s :: above =>
    match s.kind with
    | .unary op =>
      if op.isSign then
        let t := collect n s above
        { t with signs := op :: t.signs }
      else ⟨n, [], e, .expr s :: above⟩
    | _ => ⟨n, [], e, .expr s :: above⟩
  | above => ⟨n, [], e, above⟩

def ofPlace? (p : Place) : Option SignedNumber :=
  match p.node with
  | .expr e => match e.kind with
    | .constant (.number n) => some (collect n e p.above)
    | _ => none
  | .stmt _ => none

/-- The number with all its signs applied. -/
def value (t : SignedNumber) : Numeral := t.signs.foldl (fun n op => op.applied n) t.number

/-- The number with the innermost sign applied, if there is one. -/
def innerValue (t : SignedNumber) : Numeral :=
  (t.signs.take 1).foldl (fun n op => op.applied n) t.number

end SignedNumber

/-- The numbers of a tree in pre-order. -/
def Syntax.Stmt.numbers (tree : Stmt) : List SignedNumber :=
  (tree.places []).filterMap SignedNumber.ofPlace?

/-! ### What is done with an expression -/

section Uses

variable (e : Expr)

/-- An operand of a comparison, or an element of a tuple, a list or a set that is one. -/
inductive IsCompared : List Node → Prop
  | operand {c : Expr} {ops : List Comparator} {rest : List Node}
      (hkind : c.kind = .comparison ops) (he : e ∈ c.children) : IsCompared (.expr c :: rest)
  | element {d c : Expr} {ops : List Comparator} {rest : List Node}
      (hdisplay : d.kind = .tuple ∨ d.kind = .list ∨ d.kind = .set) (he : e ∈ d.children)
      (hkind : c.kind = .comparison ops) (hd : d ∈ c.children) :
      IsCompared (.expr d :: .expr c :: rest)

/-- An operand of a binary operation, or what is put to a target by one. -/
inductive IsCalculated : List Node → Prop
  | operand {c : Expr} {op : BinaryOperator} {rest : List Node}
      (hkind : c.kind = .binary op) (he : e ∈ c.children) : IsCalculated (.expr c :: rest)
  | added {s : Stmt} {op : BinaryOperator} {rest : List Node}
      (hkind : s.kind = .augmentedAssign op) (he : e ∈ s.partsIn .value) :
      IsCalculated (.stmt s :: rest)

/-- The default of a parameter to which arguments are passed by place or by name only. -/
inductive IsDefault : List Node → Prop
  | positional {c : Expr} {sig : Signature} {rest : List Node}
      (hkind : c.kind = .arguments sig) (he : e ∈ c.childrenIn .default) :
      IsDefault (.expr c :: rest)
  | keywordOnly {c : Expr} {sig : Signature} {rest : List Node}
      (hkind : c.kind = .arguments sig) (he : e ∈ c.childrenIn .keywordDefault) :
      IsDefault (.expr c :: rest)

/-- The use that a context stands for. -/
def IsUsedIn (above : List Node) : LiteralContext → Prop
  | .comparison => IsCompared e above
  | .arithmetic => IsCalculated e above
  | .default => IsDefault e above
  | .other => ¬ (IsCompared e above ∨ IsCalculated e above ∨ IsDefault e above)

end Uses

namespace LiteralFact

variable {tree : Stmt} {e : Expr} {above : List Node}

theorem isContainer_iff {k : ExprKind} :
    isContainer k = true ↔ k = .tuple ∨ k = .list ∨ k = .set := by
  cases k <;> simp [isContainer]

/-- A comparison above an expression is found if the expression is compared, and only then. -/
theorem isSome_comparison?_iff (hp : ⟨.expr e, above⟩ ∈ tree.places []) :
    (comparison? above).isSome = true ↔ IsCompared e above := by
  constructor
  · intro h
    unfold comparison? at h
    split at h
    case h_2 => cases h
    case h_1 p rest =>
      have he : e ∈ p.children := Stmt.hasChild_of_mem_places hp
      split at h
      case h_1 ops hkind => exact .operand hkind he
      case h_2 =>
        split at h
        case isFalse => cases h
        case isTrue hcontainer =>
          split at h
          case h_2 => cases h
          case h_1 q outer =>
            have hq : p ∈ q.children := Stmt.hasChild_of_mem_places (Stmt.parent_mem_places hp)
            split at h
            case h_1 ops hkind => exact .element (isContainer_iff.mp hcontainer) he hkind hq
            case h_2 => cases h
  · intro h
    cases h with
    | operand hkind he => simp [comparison?, hkind]
    | @element d c ops rest hdisplay he hkind hd =>
      rw [comparison?]
      split
      case h_1 => rfl
      case h_2 => simp [isContainer_iff.mpr hdisplay, hkind]

theorem contextOf_of_isCalculated (h : IsCalculated e above) :
    (contextOf e above).1 = .arithmetic := by
  cases h with
  | operand hkind he => simp [contextOf, comparison?, plainContext, hkind, isContainer]
  | added hkind he =>
    have hrole := (List.mem_filter.mp he).2
    simp [contextOf, comparison?, plainContext, hkind, of_decide_eq_true hrole]

theorem contextOf_of_isDefault (h : IsDefault e above) : (contextOf e above).1 = .default := by
  cases h with
  | positional hkind he =>
    have hrole := (List.mem_filter.mp he).2
    simp [contextOf, comparison?, plainContext, hkind, isContainer, of_decide_eq_true hrole]
  | keywordOnly hkind he =>
    have hrole := (List.mem_filter.mp he).2
    simp [contextOf, comparison?, plainContext, hkind, isContainer, of_decide_eq_true hrole]

/-- What is done with an expression that is not compared, if anything is. -/
theorem isUsedIn_of_plainContext (hp : ⟨.expr e, above⟩ ∈ tree.places []) {k : LiteralContext}
    (h : plainContext e.role above = k) (hk : k ≠ .other) : IsUsedIn e above k := by
  unfold plainContext at h
  split at h
  case h_1 p rest =>
    have he : e ∈ p.children := Stmt.hasChild_of_mem_places hp
    split at h
    case h_1 op hkind => subst h; exact IsCalculated.operand hkind he
    case h_2 sig hkind =>
      split at h
      case isTrue hrole =>
        rw [Bool.or_eq_true, decide_eq_true_iff, decide_eq_true_iff] at hrole
        subst h
        rcases hrole with hrole | hrole
        · exact IsDefault.positional hkind (List.mem_filter.mpr ⟨he, decide_eq_true hrole⟩)
        · exact IsDefault.keywordOnly hkind (List.mem_filter.mpr ⟨he, decide_eq_true hrole⟩)
      case isFalse => exact absurd h.symm hk
    case h_3 => exact absurd h.symm hk
  case h_2 s rest =>
    have he : e ∈ s.parts := Stmt.hasChild_of_mem_places hp
    split at h
    case h_1 op hkind =>
      split at h
      case isTrue hrole =>
        subst h
        exact IsCalculated.added hkind (List.mem_filter.mpr ⟨he, decide_eq_true hrole⟩)
      case isFalse => exact absurd h.symm hk
    case h_2 => exact absurd h.symm hk
  case h_3 => exact absurd h.symm hk

theorem contextOf_of_isCompared (hp : ⟨.expr e, above⟩ ∈ tree.places [])
    (h : IsCompared e above) : (contextOf e above).1 = .comparison := by
  obtain ⟨c, hc⟩ := Option.isSome_iff_exists.mp ((isSome_comparison?_iff hp).mpr h)
  rw [contextOf, hc]

/-- A context other than the last one is that of an expression that is used so. -/
theorem contextOf_eq_iff_of_ne_other (hp : ⟨.expr e, above⟩ ∈ tree.places [])
    {k : LiteralContext} (hk : k ≠ .other) :
    (contextOf e above).1 = k ↔ IsUsedIn e above k := by
  constructor
  · intro h
    rw [contextOf] at h
    split at h
    case h_1 c hc =>
      subst h
      exact (isSome_comparison?_iff hp).mp (by rw [hc]; rfl)
    case h_2 => exact isUsedIn_of_plainContext hp h hk
  · intro h
    cases k with
    | comparison => exact contextOf_of_isCompared hp h
    | arithmetic => exact contextOf_of_isCalculated h
    | default => exact contextOf_of_isDefault h
    | other => exact absurd rfl hk

/-- The context of an expression of a tree is what is done with it. -/
theorem contextOf_eq_iff (hp : ⟨.expr e, above⟩ ∈ tree.places []) (k : LiteralContext) :
    (contextOf e above).1 = k ↔ IsUsedIn e above k := by
  by_cases hk : k = .other
  · have hcompared : (contextOf e above).1 = .comparison ↔ IsCompared e above :=
      contextOf_eq_iff_of_ne_other hp (by decide)
    have hcalculated : (contextOf e above).1 = .arithmetic ↔ IsCalculated e above :=
      contextOf_eq_iff_of_ne_other hp (by decide)
    have hdefault : (contextOf e above).1 = .default ↔ IsDefault e above :=
      contextOf_eq_iff_of_ne_other hp (by decide)
    rw [hk, IsUsedIn, ← hcompared, ← hcalculated, ← hdefault]
    cases (contextOf e above).1 <;> simp
  · exact contextOf_eq_iff_of_ne_other hp hk

end LiteralFact

/-! ### Signs before a number -/

/-- The first of the nodes above a number is a sign before it. -/
def IsSigned (above : List Node) : Prop :=
  ∃ s op rest, above = .expr s :: rest ∧ s.kind = .unary op ∧ op.isSign = true

namespace SignedNumber

variable {n : Numeral} {e s : Expr} {op : UnaryOperator} {above : List Node}

theorem collect_of_sign (hkind : s.kind = .unary op) (hsign : op.isSign = true) :
    collect n e (.expr s :: above) =
      { collect n s above with signs := op :: (collect n s above).signs } := by
  rw [collect]
  simp [hkind, hsign]

theorem collect_of_not_isSigned (h : ¬ IsSigned above) : collect n e above = ⟨n, [], e, above⟩ := by
  unfold collect
  split
  case h_1 s rest =>
    split
    case h_1 op hkind => exact if_neg fun hsign => h ⟨s, op, rest, rfl, hkind, hsign⟩
    case h_2 => rfl
  case h_2 => rfl

theorem number_collect : (collect n e above).number = n := by
  induction above generalizing e with
  | nil => rfl
  | cons node above ih =>
    by_cases h : IsSigned (node :: above)
    · obtain ⟨s, op, rest, habove, hkind, hsign⟩ := h
      obtain ⟨rfl, rfl⟩ := List.cons.inj habove
      rw [collect_of_sign hkind hsign]
      exact ih
    · rw [collect_of_not_isSigned h]

theorem signs_collect_eq_nil_iff : (collect n e above).signs = [] ↔ ¬ IsSigned above := by
  constructor
  · rintro h ⟨s, op, rest, rfl, hkind, hsign⟩
    rw [collect_of_sign hkind hsign] at h
    cases h
  · intro h
    rw [collect_of_not_isSigned h]

/-- A number with its signs is an expression of the tree that the number is one of. -/
theorem place_mem_of_collect {tree : Stmt} (hp : ⟨.expr e, above⟩ ∈ tree.places []) :
    ⟨.expr (collect n e above).expr, (collect n e above).above⟩ ∈ tree.places [] := by
  induction above generalizing e with
  | nil => exact hp
  | cons node above ih =>
    by_cases h : IsSigned (node :: above)
    · obtain ⟨s, op, rest, habove, hkind, hsign⟩ := h
      obtain ⟨rfl, rfl⟩ := List.cons.inj habove
      rw [collect_of_sign hkind hsign]
      exact ih (Stmt.parent_mem_places hp)
    · rw [collect_of_not_isSigned h]
      exact hp

theorem place_mem_of_mem_numbers {tree : Stmt} {t : SignedNumber} (h : t ∈ tree.numbers) :
    ⟨.expr t.expr, t.above⟩ ∈ tree.places [] := by
  obtain ⟨⟨node, above⟩, hp, ht⟩ := List.mem_filterMap.mp h
  rw [ofPlace?] at ht
  split at ht
  case h_2 => cases ht
  case h_1 e hnode =>
    obtain rfl : node = .expr e := hnode
    split at ht
    case h_1 => obtain rfl := Option.some.inj ht; exact place_mem_of_collect hp
    case h_2 => cases ht

end SignedNumber

namespace LiteralFact

variable {n : Numeral} {e s : Expr} {op : UnaryOperator} {above : List Node}

theorem numberAnchor_of_sign (hkind : s.kind = .unary op) (hsign : op.isSign = true) :
    numberAnchor n e (.expr s :: above) = ⟨.number (op.applied n), s, above⟩ := by
  cases op <;> simp [numberAnchor, hkind, UnaryOperator.applied, UnaryOperator.isSign] at hsign ⊢

theorem numberAnchor_of_not_isSigned (h : ¬ IsSigned above) :
    numberAnchor n e above = ⟨.number n, e, above⟩ := by
  unfold numberAnchor
  split
  case h_1 s rest =>
    split
    case h_1 hkind => exact absurd ⟨s, .minus, rest, rfl, hkind, rfl⟩ h
    case h_2 hkind => exact absurd ⟨s, .plus, rest, rfl, hkind, rfl⟩ h
    case h_3 => rfl
  case h_2 => rfl

theorem value_numberAnchor :
    (numberAnchor n e above).value = .number (SignedNumber.collect n e above).innerValue := by
  by_cases h : IsSigned above
  · obtain ⟨s, op, rest, rfl, hkind, hsign⟩ := h
    rw [numberAnchor_of_sign hkind hsign, SignedNumber.collect_of_sign hkind hsign,
      SignedNumber.innerValue]
    simp [SignedNumber.number_collect]
  · rw [numberAnchor_of_not_isSigned h, SignedNumber.collect_of_not_isSigned h]
    rfl

/-- A single sign, if there is one, is taken up. -/
theorem numberAnchor_of_length_le_one
    (h : (SignedNumber.collect n e above).signs.length ≤ 1) :
    (numberAnchor n e above).expr = (SignedNumber.collect n e above).expr ∧
      (numberAnchor n e above).above = (SignedNumber.collect n e above).above := by
  by_cases hsigned : IsSigned above
  · obtain ⟨s, op, rest, rfl, hkind, hsign⟩ := hsigned
    rw [SignedNumber.collect_of_sign hkind hsign] at h ⊢
    have hplain : ¬ IsSigned rest := SignedNumber.signs_collect_eq_nil_iff.mp
      (List.eq_nil_of_length_eq_zero (Nat.le_zero.mp (Nat.le_of_succ_le_succ h)))
    rw [numberAnchor_of_sign hkind hsign, SignedNumber.collect_of_not_isSigned hplain]
    exact ⟨rfl, rfl⟩
  · rw [numberAnchor_of_not_isSigned hsigned, SignedNumber.collect_of_not_isSigned hsigned]
    exact ⟨rfl, rfl⟩

/-- Of several signs all but the innermost one stand above what is taken up. -/
theorem isSigned_above_numberAnchor (h : 2 ≤ (SignedNumber.collect n e above).signs.length) :
    IsSigned (numberAnchor n e above).above := by
  by_cases hsigned : IsSigned above
  · obtain ⟨s, op, rest, rfl, hkind, hsign⟩ := hsigned
    rw [SignedNumber.collect_of_sign hkind hsign] at h
    rw [numberAnchor_of_sign hkind hsign]
    by_contra hplain
    rw [SignedNumber.signs_collect_eq_nil_iff.mpr hplain] at h
    simp at h
  · rw [SignedNumber.collect_of_not_isSigned hsigned] at h
    simp at h

theorem contextOf_of_isSigned (h : IsSigned above) : (contextOf e above).1 = .other := by
  obtain ⟨s, op, rest, rfl, hkind, -⟩ := h
  simp [contextOf, comparison?, plainContext, hkind, isContainer]

/-! ### The facts about numbers -/

def isNumber (f : LiteralFact) : Bool :=
  match f.value with
  | .number _ => true
  | .text _ => false

/-- What a fact says of a number with its signs. -/
structure Records (f : LiteralFact) (t : SignedNumber) : Prop where
  /-- Without several signs the whole is what the fact is about. -/
  whole : t.signs.length ≤ 1 →
    f.value = .number t.value ∧ f.pos = t.expr.pos ∧ ∀ k, f.context = k ↔ IsUsedIn t.expr t.above k
  part : 2 ≤ t.signs.length → f.value = .number t.innerValue ∧ f.context = .other

theorem records_numberAnchor {tree : Stmt} (hp : ⟨.expr e, above⟩ ∈ tree.places []) :
    (ofAnchor (numberAnchor n e above)).Records (SignedNumber.collect n e above) where
  whole h := by
    obtain ⟨hexpr, habove⟩ := numberAnchor_of_length_le_one h
    have hplace := SignedNumber.place_mem_of_collect (n := n) hp
    refine ⟨?_, congrArg Expr.pos hexpr, fun k => ?_⟩
    · rw [SignedNumber.value, ← List.take_of_length_le h]
      exact value_numberAnchor
    · rw [← contextOf_eq_iff hplace, ← hexpr, ← habove]
      rfl
  part h := ⟨value_numberAnchor, contextOf_of_isSigned (isSigned_above_numberAnchor h)⟩

theorem filter_ofPlace?_of_number (hkind : e.kind = .constant (.number n)) :
    (ofPlace? ⟨.expr e, above⟩).filter isNumber = some (ofAnchor (numberAnchor n e above)) := by
  have hvalue : (ofAnchor (numberAnchor n e above)).value =
      .number (SignedNumber.collect n e above).innerValue := value_numberAnchor
  simp [ofPlace?, anchor?, hkind, isOfInterest, isNumber, hvalue]

theorem filter_ofPlace?_of_not_number (hkind : ∀ n, e.kind ≠ .constant (.number n)) :
    (ofPlace? ⟨.expr e, above⟩).filter isNumber = none := by
  rw [ofPlace?, anchor?]
  dsimp only
  split
  case h_1 n hnumber => exact absurd hnumber (hkind n)
  case h_2 s _ => simp [ofAnchor, isNumber]
  case h_3 => rfl

/-- A place has a number if it has a fact about one. -/
theorem records_of_place {tree : Stmt} {p : Place} (hp : p ∈ tree.places []) :
    Option.Rel (fun t f => f.Records t) (SignedNumber.ofPlace? p)
      ((ofPlace? p).filter isNumber) := by
  obtain ⟨node, above⟩ := p
  cases node with
  | stmt s => exact .none
  | expr e =>
    rw [SignedNumber.ofPlace?]
    dsimp only
    split
    case h_1 n hkind =>
      rw [filter_ofPlace?_of_number hkind]
      exact .some (records_numberAnchor hp)
    case h_2 hkind =>
      rw [filter_ofPlace?_of_not_number hkind]
      exact .none

end LiteralFact

/-- A tree that has facts has one for each number in it. If one sign at the most stands before the
number, the fact has the value and the use of the whole; of a number with more signs it has the
value with the innermost sign, and no use. -/
theorem LiteralFact.numbers_recorded {verbs : List String} {suppressions : Suppressions}
    {tree : Stmt} {facts : Facts} (hfacts : Facts.ofTree verbs suppressions tree = .ok facts) :
    List.Forall₂ (fun t f => f.Records t) tree.numbers (facts.literals.filter isNumber) := by
  rw [← (Facts.of_ofTree hfacts).2.2, List.filter_filterMap, Stmt.numbers]
  exact List.rel_filterMap (fun _ _ h => h)
    (List.forall₂_same.mpr fun p hp => LiteralFact.records_of_place hp)

/-- A number behind one sign, and a number behind two. -/
def signedNumbers : String := "x>-5\nx>--5\n"

/-- The second number is compared too, but its fact has another value and no use. -/
theorem LiteralFact.number_behind_twoSigns :
    ∃ tree facts one two f g, programOf [] signedNumbers = .ok tree ∧
      Facts.ofTree [] [] tree = .ok facts ∧ tree.numbers = [one, two] ∧
      facts.literals.filter isNumber = [f, g] ∧
      f.value = .number one.value ∧ f.context = .comparison ∧
      two.value = .integer 5 ∧ IsUsedIn two.expr two.above .comparison ∧
      g.value = .number (.integer (-5)) ∧ g.context = .other := by
  obtain ⟨tree, facts, htree, hfacts, hseen⟩ := Facts.exists_of_text signedNumbers
    (fun tree _ => tree.numbers.length = 2
      && tree.numbers.all (fun t : SignedNumber => (contextOf t.expr t.above).1 = .comparison)
      && tree.numbers.head?.any (fun one : SignedNumber => one.signs.length = 1)
      && tree.numbers.getLast?.any fun two : SignedNumber =>
        two.signs.length = 2 && two.value = .integer 5 && two.innerValue = .integer (-5))
    (by decide +kernel)
  simp only [Bool.and_eq_true, decide_eq_true_eq, List.all_eq_true] at hseen
  obtain ⟨⟨⟨hlength, hcompared⟩, hfirst⟩, hlast⟩ := hseen
  have hused (t : SignedNumber) (ht : t ∈ tree.numbers) : IsUsedIn t.expr t.above .comparison :=
    (contextOf_eq_iff (SignedNumber.place_mem_of_mem_numbers ht) _).mp (hcompared t ht)
  obtain ⟨one, two, hnumbers⟩ := List.length_eq_two.mp hlength
  simp only [hnumbers, List.head?_cons, List.getLast?_cons_cons, List.getLast?_singleton,
    Option.any_some, Bool.and_eq_true, decide_eq_true_eq] at hfirst hlast
  obtain ⟨⟨htwo, hvalue⟩, hinner⟩ := hlast
  have hrecords := numbers_recorded hfacts
  rw [hnumbers] at hused hrecords
  obtain ⟨f, _, hf, hrest, hliterals⟩ := List.forall₂_cons_left_iff.mp hrecords
  obtain ⟨g, _, hg, hnil, rfl⟩ := List.forall₂_cons_left_iff.mp hrest
  obtain rfl := List.forall₂_nil_left_iff.mp hnil
  obtain ⟨hfvalue, -, hfuse⟩ := hf.whole hfirst.le
  obtain ⟨hgvalue, hguse⟩ := hg.part htwo.ge
  exact ⟨tree, facts, one, two, f, g, htree, hfacts, hnumbers, hliterals, hfvalue,
    (hfuse _).mpr (hused one (by simp)), hvalue, hused two (by simp),
    by rw [hgvalue, hinner], hguse⟩

end SourceConventions
