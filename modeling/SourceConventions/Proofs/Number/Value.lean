import Mathlib.Algebra.Order.Field.Basic
import Mathlib.Algebra.Order.Ring.Rat
import Mathlib.Order.WithBot
import Mathlib.Tactic.Linarith
import SourceConventions.Number.Value

/-!
# The values of numbers

A number of a source text has an exact value: a rational number or an infinity on the real or on the
imaginary axis. Numbers are compared by these values, without rounding, whatever their kinds are.
-/

namespace SourceConventions

open Number

/-- Rational numbers and two infinities. -/
abbrev Number.Extended : Type := WithBot (WithTop ℚ)

namespace Number.Extended

/-- A rational number as a value. -/
def ofRat (q : ℚ) : Extended := ((q : WithTop ℚ) : WithBot (WithTop ℚ))

@[simp] theorem ofRat_inj {q r : ℚ} : ofRat q = ofRat r ↔ q = r := by
  rw [ofRat, ofRat, WithBot.coe_inj, WithTop.coe_inj]

@[simp] theorem ofRat_le {q r : ℚ} : ofRat q ≤ ofRat r ↔ q ≤ r := by
  rw [ofRat, ofRat, WithBot.coe_le_coe, WithTop.coe_le_coe]

@[simp] theorem ofRat_lt {q r : ℚ} : ofRat q < ofRat r ↔ q < r := by
  rw [ofRat, ofRat, WithBot.coe_lt_coe, WithTop.coe_lt_coe]

theorem bot_lt_ofRat (q : ℚ) : (⊥ : Extended) < ofRat q := WithBot.bot_lt_coe _

theorem ofRat_lt_top (q : ℚ) : ofRat q < (⊤ : Extended) :=
  WithBot.coe_lt_coe.mpr (WithTop.coe_lt_top q)

theorem compare_ofRat (q r : ℚ) : compare (ofRat q) (ofRat r) = compare q r := by
  cases h : compare q r with
  | lt => exact compare_lt_iff_lt.mpr (ofRat_lt.mpr (compare_lt_iff_lt.mp h))
  | eq => exact compare_eq_iff_eq.mpr (congrArg ofRat (compare_eq_iff_eq.mp h))
  | gt => exact compare_gt_iff_gt.mpr (ofRat_lt.mpr (compare_gt_iff_gt.mp h))

end Number.Extended

open Number.Extended (ofRat)

namespace Number.Binary64

/-- The value of a number, if it is one. -/
def value? : Binary64 → Option Extended
  | .finite negative m e => some (ofRat ((if negative then -(m : ℚ) else m) * 2 ^ e))
  | .infinite negative => some (if negative then ⊥ else ⊤)
  | .undefined => none

/-- The quotient that stands for a finite number has its value. -/
theorem ratio?_finite (negative : Bool) (m : Nat) (e : Int) :
    ∃ (a : Int) (b : Nat), (Binary64.finite negative m e).ratio? = some (a, b) ∧ 0 < b ∧
      ((if negative then -(m : ℚ) else m) * 2 ^ e : ℚ) = a / b := by
  by_cases he : 0 ≤ e
  · obtain ⟨k, rfl⟩ := Int.eq_ofNat_of_zero_le he
    refine ⟨_, 1, by rw [ratio?, if_pos he], Nat.one_pos, ?_⟩
    cases negative <;> simp
  · obtain ⟨k, rfl⟩ : ∃ k : Nat, e = -(k : Int) := ⟨(-e).toNat, by omega⟩
    refine ⟨_, Nat.pow 2 k, by rw [ratio?, if_neg he, neg_neg, Int.toNat_natCast],
      Nat.pow_pos Nat.two_pos, ?_⟩
    cases negative <;> simp [div_eq_mul_inv]

/-- Quotients are compared by multiplication. -/
theorem compare_mul (a c : Int) {b d : Nat} (hb : 0 < b) (hd : 0 < d) :
    compare (a * d) (c * b) = compare (a / b : ℚ) (c / d) := by
  have hb' : (0 : ℚ) < b := Nat.cast_pos.mpr hb
  have hd' : (0 : ℚ) < d := Nat.cast_pos.mpr hd
  cases h : compare (a * d) (c * b) with
  | lt =>
    have hlt := compare_lt_iff_lt.mp h
    exact (compare_lt_iff_lt.mpr ((div_lt_div_iff₀ hb' hd').mpr (by exact_mod_cast hlt))).symm
  | eq =>
    have heq := compare_eq_iff_eq.mp h
    exact (compare_eq_iff_eq.mpr ((div_eq_div_iff hb'.ne' hd'.ne').mpr (by exact_mod_cast heq))).symm
  | gt =>
    have hgt := compare_gt_iff_gt.mp h
    exact (compare_gt_iff_gt.mpr ((div_lt_div_iff₀ hd' hb').mpr (by exact_mod_cast hgt))).symm

/-- Two numbers are compared by their values, if both have one. -/
theorem compare?_eq (x y : Binary64) :
    x.compare? y = Option.map₂ compare x.value? y.value? := by
  cases x with
  | undefined => rfl
  | infinite s =>
    cases y with
    | undefined => cases s <;> rfl
    | infinite t => cases s <;> cases t <;> decide
    | finite t m e =>
      cases s with
      | true => exact congrArg some (compare_lt_iff_lt.mpr (Extended.bot_lt_ofRat _)).symm
      | false => exact congrArg some (compare_gt_iff_gt.mpr (Extended.ofRat_lt_top _)).symm
  | finite s m e =>
    cases y with
    | undefined => rfl
    | infinite t =>
      cases t with
      | true => exact congrArg some (compare_gt_iff_gt.mpr (Extended.bot_lt_ofRat _)).symm
      | false => exact congrArg some (compare_lt_iff_lt.mpr (Extended.ofRat_lt_top _)).symm
    | finite t k f =>
      obtain ⟨a, b, hx, hb, hvalue⟩ := ratio?_finite s m e
      obtain ⟨c, d, hy, hd, hvalue'⟩ := ratio?_finite t k f
      simp only [compare?, hx, hy, value?, hvalue, hvalue', Option.map₂_some_some,
        Extended.compare_ofRat, compare_mul a c hb hd]

/-- A number is compared with an integer by their values, if it has one. -/
theorem compareInt?_eq (x : Binary64) (n : Int) :
    x.compareInt? n = x.value?.map (compare · (ofRat n)) := by
  cases x with
  | undefined => rfl
  | infinite s =>
    cases s with
    | true => exact congrArg some (compare_lt_iff_lt.mpr (Extended.bot_lt_ofRat _)).symm
    | false => exact congrArg some (compare_gt_iff_gt.mpr (Extended.ofRat_lt_top _)).symm
  | finite s m e =>
    obtain ⟨a, b, hx, hb, hvalue⟩ := ratio?_finite s m e
    have hmul := compare_mul a n hb Nat.one_pos
    rw [Nat.cast_one, mul_one, Nat.cast_one, div_one] at hmul
    rw [compareInt?, hx, value?, hvalue, Option.map_some, Extended.compare_ofRat]
    exact congrArg some hmul

theorem compare?_eq_iff {x y : Binary64} :
    x.compare? y = some .eq ↔ ∃ v, x.value? = some v ∧ y.value? = some v := by
  simp [compare?_eq]

theorem compareInt?_eq_iff {x : Binary64} {n : Int} :
    x.compareInt? n = some .eq ↔ x.value? = some (ofRat n) := by
  simp [compareInt?_eq]

theorem value?_neg_eq_zero {x : Binary64} :
    x.neg.value? = some (ofRat 0) ↔ x.value? = some (ofRat 0) := by
  cases x with
  | undefined => rfl
  | infinite s =>
    have hbot : (⊥ : Extended) ≠ ofRat 0 := (Extended.bot_lt_ofRat 0).ne
    have htop : (⊤ : Extended) ≠ ofRat 0 := (Extended.ofRat_lt_top 0).ne'
    cases s <;> simp [neg, value?, hbot, htop]
  | finite s m e => cases s <;> simp [neg, value?]

/-- The magnitude of a number reaches what the number or its negative reaches. -/
theorem le_value?_abs_iff {x : Binary64} {least : Nat} :
    (∃ v, x.abs.value? = some v ∧ ofRat least ≤ v) ↔
      ∃ v, x.value? = some v ∧ (ofRat least ≤ v ∨ v ≤ ofRat (-least)) := by
  cases x with
  | undefined => simp [abs, value?]
  | infinite s => cases s <;> simp [abs, value?]
  | finite s m e =>
    have hm : (0 : ℚ) ≤ m * 2 ^ e := mul_nonneg (Nat.cast_nonneg m) (zpow_nonneg zero_le_two e)
    have hleast : (0 : ℚ) ≤ least := Nat.cast_nonneg least
    cases s with
    | true =>
      simp only [abs, value?, if_true, Bool.false_eq_true, if_false, Option.some.injEq,
        exists_eq_left', Extended.ofRat_le]
      constructor
      · intro h
        exact .inr (by linarith)
      · rintro (h | h) <;> linarith
    | false =>
      simp only [abs, value?, Bool.false_eq_true, if_false, Option.some.injEq,
        exists_eq_left', Extended.ofRat_le]
      constructor
      · exact .inl
      · rintro (h | h) <;> linarith

end Number.Binary64

namespace Numeral

/-- Where a number lies on the real axis, or on the imaginary one if it is imaginary. -/
def coordinate? : Numeral → Option Extended
  | .integer n => some (ofRat n)
  | .real x => x.value?
  | .imaginary negated x => (imaginaryPart negated x).value?

/-- The real and the imaginary part of a number. -/
def value? (n : Numeral) : Option (Extended × Extended) :=
  match n with
  | .integer _ | .real _ => n.coordinate?.map fun v => (v, ofRat 0)
  | .imaginary _ _ => n.coordinate?.map fun v => (ofRat 0, v)

/-- Two numbers are one and the same value. -/
def SameValue (n m : Numeral) : Prop := ∃ z, n.value? = some z ∧ m.value? = some z

/-- A number is at least so far from zero, on one side or the other. -/
def Reaches (n : Numeral) (least : Nat) : Prop :=
  ∃ v, n.coordinate? = some v ∧ (ofRat least ≤ v ∨ v ≤ ofRat (-least))

/-- A minus sign does not change whether a factor of the imaginary unit is zero. -/
theorem value?_imaginaryPart_eq_zero {negated : Bool} {x : Binary64} :
    (imaginaryPart negated x).value? = some (ofRat 0) ↔ x.value? = some (ofRat 0) := by
  cases negated with
  | true => exact Binary64.value?_neg_eq_zero
  | false => rfl

theorem abs_imaginaryPart (negated : Bool) (x : Binary64) :
    (imaginaryPart negated x).abs = x.abs := by
  cases negated with
  | true => cases x <;> rfl
  | false => rfl

/-- Numbers are the same exactly if their values are. -/
theorem same_iff {n m : Numeral} : n.same m = true ↔ n.SameValue m := by
  cases n with
  | integer a =>
    cases m with
    | integer b => simpa [same, SameValue, value?, coordinate?] using eq_comm
    | real y => simp [same, SameValue, value?, coordinate?, Binary64.compareInt?_eq_iff]
    | imaginary t y =>
      simp [same, SameValue, value?, coordinate?, Binary64.compareInt?_eq_iff,
        value?_imaginaryPart_eq_zero, @eq_comm ℚ 0]
  | real x =>
    cases m with
    | integer b => simp [same, SameValue, value?, coordinate?, Binary64.compareInt?_eq_iff]
    | real y => simp [same, SameValue, value?, coordinate?, Binary64.compare?_eq_iff]
    | imaginary t y =>
      simp [same, SameValue, value?, coordinate?, Binary64.compareInt?_eq_iff,
        value?_imaginaryPart_eq_zero]
  | imaginary s x =>
    cases m with
    | integer b =>
      simp [same, SameValue, value?, coordinate?, Binary64.compareInt?_eq_iff,
        value?_imaginaryPart_eq_zero, @eq_comm ℚ 0]
    | real y =>
      simp [same, SameValue, value?, coordinate?, Binary64.compareInt?_eq_iff,
        value?_imaginaryPart_eq_zero, and_comm]
    | imaginary t y => simp [same, SameValue, value?, coordinate?, Binary64.compare?_eq_iff]

theorem atLeast_iff {x : Binary64} {least : Nat} :
    (real x).atLeast (.integer least) = true ↔ ∃ v, x.value? = some v ∧ ofRat least ≤ v := by
  rw [atLeast, below, same, Binary64.compareInt?_eq]
  cases x.value? with
  | none => simp
  | some v =>
    have hle : (compare v (ofRat least) = .gt ∨ compare v (ofRat least) = .eq) ↔ ofRat least ≤ v := by
      rw [compare_gt_iff_gt, compare_eq_iff_eq, le_iff_lt_or_eq, @eq_comm _ v]
    simpa using hle

/-- What counts of a number is how far it is from zero. -/
theorem abs_atLeast_iff {n : Numeral} {least : Nat} :
    n.abs.atLeast (.integer least) = true ↔ n.Reaches least := by
  cases n with
  | integer i =>
    have hcast : (least : ℤ) ≤ |i| ↔ (least : ℚ) ≤ i ∨ (i : ℚ) ≤ -least := by
      rw [le_abs, le_neg]
      norm_cast
    simpa [abs, atLeast, below, same, Reaches, coordinate?, ← le_iff_lt_or_eq, @eq_comm ℤ |i|]
      using hcast
  | real x => rw [abs, atLeast_iff, Binary64.le_value?_abs_iff, Reaches, coordinate?]
  | imaginary negated x =>
    rw [abs, atLeast_iff, Reaches, coordinate?, ← Binary64.le_value?_abs_iff, abs_imaginaryPart]

end Numeral

end SourceConventions
