import Mathlib.Data.List.Basic
import SourceConventions.Json.Reader

/-!
# Reading written texts and integers

A text is read from its escapes up to the quote that closes it, a character beyond the first 65536
from a pair of surrogates. An integer is read from its digits, as long as no point, exponent or
digit follows.
-/

namespace SourceConventions.Json

/-! ### Characters of texts -/

theorem hexValue?_hexDigit : ∀ n < 16, hexValue? (hexDigit n) = some n := by decide

/-- Four digits are read as the unit that they write. -/
theorem unit?_digits {n : Nat} (h : n < 0x10000) (rest : List Char) :
    unit? (hexDigit (n / 4096 % 16) :: hexDigit (n / 256 % 16) :: hexDigit (n / 16 % 16) ::
      hexDigit (n % 16) :: rest) = some (n, rest) := by
  have hdigit (m : Nat) : hexValue? (hexDigit (m % 16)) = some (m % 16) :=
    hexValue?_hexDigit _ (Nat.mod_lt m (by decide))
  have hsum : ((n / 4096 % 16 * 16 + n / 256 % 16) * 16 + n / 16 % 16) * 16 + n % 16 = n := by omega
  rw [unit?, hdigit, hdigit, hdigit, hdigit]
  exact congrArg (fun m => some (m, rest)) hsum

/-- A character is no surrogate. -/
theorem toNat_not_surrogate (c : Char) :
    isHighUnit c.toNat = false ∧ isLowUnit c.toNat = false := by
  have hvalid : c.toNat < 0xd800 ∨ 0xdfff < c.toNat ∧ c.toNat < 0x110000 := c.valid
  simp only [isHighUnit, isLowUnit, Bool.and_eq_false_iff, decide_eq_false_iff_not]
  omega

/-- A character of one unit is read from its escape. -/
theorem escapedChar?_unit {c : Char} (h : c.toNat < 0x10000) (rest : List Char) :
    escapedChar? ((unitEscape c.toNat).drop 2 ++ rest) = some (c, rest) := by
  obtain ⟨hhigh, hlow⟩ := toNat_not_surrogate c
  have hunit : unit? ((unitEscape c.toNat).drop 2 ++ rest) = some (c.toNat, rest) :=
    unit?_digits h rest
  rw [escapedChar?, hunit]
  simp [hhigh, hlow, Char.ofNat_toNat]

/-- A character of two units is read from their escapes. -/
theorem escapedChar?_pair {c : Char} (high low : Nat) (hhigh : 0xd800 ≤ high ∧ high < 0xdc00)
    (hlow : 0xdc00 ≤ low ∧ low < 0xe000)
    (hsum : 0x10000 + (high - 0xd800) * 0x400 + (low - 0xdc00) = c.toNat) (rest : List Char) :
    escapedChar? ((unitEscape high).drop 2 ++ (unitEscape low ++ rest)) = some (c, rest) := by
  have hisHigh : isHighUnit high = true := by simpa [isHighUnit] using hhigh
  have hisLow : isLowUnit low = true := by simpa [isLowUnit] using hlow
  have hfirst : unit? ((unitEscape high).drop 2 ++ (unitEscape low ++ rest)) =
      some (high, unitEscape low ++ rest) := unit?_digits (by omega) _
  have hsecond : unit? ((unitEscape low).drop 2 ++ rest) = some (low, rest) :=
    unit?_digits (by omega) rest
  have hsplit : unitEscape low ++ rest = '\\' :: 'u' :: ((unitEscape low).drop 2 ++ rest) := rfl
  rw [escapedChar?, hfirst, hsplit]
  simp only [Option.bind_eq_bind, Option.bind_some, hisHigh, if_true, hsecond, hisLow, hsum,
    Char.ofNat_toNat]

/-- What is read of a text whose first character is found. -/
def behindChar (c : Char) (found : Option (List Char × List Char)) :
    Option (List Char × List Char) :=
  found.map fun (body, rest) => (c :: body, rest)

theorem stringBody_plain {c : Char} (hquote : c ≠ '"') (hback : c ≠ '\\') (hblank : ' ' ≤ c)
    (fuel : Nat) (rest : List Char) :
    stringBody (fuel + 1) (c :: rest) = behindChar c (stringBody fuel rest) := by
  rw [stringBody.eq_def]
  split
  next heq => cases heq
  next heq =>
    obtain ⟨rfl, rfl⟩ := Nat.succ.inj heq
    split
    next hcs => cases hcs
    next hcs => exact absurd (List.cons.inj hcs).1 hquote
    next hcs => exact absurd (List.cons.inj hcs).1 hback
    next hcs =>
      obtain ⟨rfl, rfl⟩ := List.cons.inj hcs
      rw [if_neg (Char.not_lt.mpr hblank), behindChar, Option.map_eq_bind]
      rfl

theorem stringBody_unit {c : Char} {digits rest : List Char}
    (h : escapedChar? digits = some (c, rest)) (fuel : Nat) :
    stringBody (fuel + 1) ('\\' :: 'u' :: digits) = behindChar c (stringBody fuel rest) := by
  rw [behindChar, Option.map_eq_bind]
  change ((escapedChar? digits).bind fun found => _) = _
  rw [h]
  rfl

/-- A character is read from what is written for it. -/
theorem stringBody_escapeChar (c : Char) (fuel : Nat) (rest : List Char) :
    stringBody (fuel + 1) (escapeChar c ++ rest) = behindChar c (stringBody fuel rest) := by
  unfold escapeChar
  split
  iterate 7 exact Option.map_eq_bind.symm
  next hquote hback _ _ _ _ _ =>
    split
    case isTrue hplain => exact stringBody_plain hquote hback hplain.1 fuel rest
    case isFalse =>
      split
      case isTrue hsmall => exact stringBody_unit (escapedChar?_unit hsmall rest) fuel
      case isFalse hlarge =>
        have hmost : c.toNat < 0xd800 ∨ 0xdfff < c.toNat ∧ c.toNat < 0x110000 := c.valid
        have hpair := escapedChar?_pair (c := c) (0xd800 + (c.toNat - 0x10000) / 0x400)
          (0xdc00 + (c.toNat - 0x10000) % 0x400) (by omega) (by omega) (by omega) rest
        dsimp only
        rw [List.append_assoc]
        exact stringBody_unit hpair fuel

/-- A text is read up to the quote that closes it. -/
theorem stringBody_quoted (cs rest : List Char) {fuel : Nat} (h : cs.length < fuel) :
    stringBody fuel (cs.flatMap escapeChar ++ '"' :: rest) = some (cs, rest) := by
  induction cs generalizing fuel with
  | nil =>
    obtain ⟨fuel, rfl⟩ := Nat.exists_eq_add_of_lt h
    rfl
  | cons c cs ih =>
    obtain ⟨fuel, rfl⟩ := Nat.exists_eq_succ_of_ne_zero (Nat.ne_zero_of_lt h)
    rw [List.flatMap_cons, List.append_assoc, stringBody_escapeChar, ih (Nat.lt_of_succ_lt_succ h)]
    rfl

/-! ### Integers -/

/-- A rest of a text that does not go on a number. -/
def Ends (rest : List Char) : Prop :=
  ∀ c ∈ rest.head?, c.isDigit = false ∧ c ≠ '.' ∧ c ≠ 'e' ∧ c ≠ 'E'

theorem isDigit_of_mem_toDigits {n : Nat} {c : Char} (h : c ∈ Nat.toDigits 10 n) :
    c.isDigit = true :=
  Nat.isDigit_of_mem_toDigits (by decide) (by decide) h

theorem span_toDigits (n : Nat) {rest : List Char} (h : Ends rest) :
    (Nat.toDigits 10 n ++ rest).takeWhile Char.isDigit = Nat.toDigits 10 n ∧
      (Nat.toDigits 10 n ++ rest).dropWhile Char.isDigit = rest := by
  have hall : ∀ c ∈ Nat.toDigits 10 n, c.isDigit = true := fun c => isDigit_of_mem_toDigits
  have hstop : rest.takeWhile Char.isDigit = [] ∧ rest.dropWhile Char.isDigit = rest := by
    cases rest with
    | nil => exact ⟨rfl, rfl⟩
    | cons c more =>
      have hc := (h c rfl).1
      exact ⟨List.takeWhile_cons_of_neg (by simp [hc]), List.dropWhile_cons_of_neg (by simp [hc])⟩
  rw [List.takeWhile_append_of_pos hall, List.dropWhile_append_of_pos hall, hstop.1, hstop.2,
    List.append_nil]
  exact ⟨rfl, rfl⟩

theorem natOfDigits_toDigits (n : Nat) : natOfDigits (Nat.toDigits 10 n) = n := by
  have hfold : natOfDigits (Nat.toDigits 10 n) = Nat.ofDigitChars 10 (Nat.toDigits 10 n) 0 := by
    rw [natOfDigits, Nat.ofDigitChars_eq_foldl]
    simp only [Nat.mul_comm]
    rfl
  rw [hfold, Nat.ofDigitChars_ten_toDigits]

/-- Only zero is written with a zero in front. -/
theorem eq_zero_of_head?_toDigits {n : Nat} (h : (Nat.toDigits 10 n).head? = some '0') : n = 0 := by
  induction n using Nat.strongRecOn with
  | ind n ih =>
    rw [Nat.toDigits_eq_if (by decide)] at h
    split at h
    case isTrue => exact Nat.digitChar_eq_zero.mp (Option.some.inj h)
    case isFalse hlarge =>
      rw [List.head?_append_of_ne_nil _ Nat.toDigits_ne_nil] at h
      have hzero := ih (n / 10) (by omega) h
      omega

theorem fraction?_of_ends {rest : List Char} (h : Ends rest) : fraction? rest = none := by
  unfold fraction?
  split
  next => exact absurd rfl (h '.' rfl).2.1
  next => rfl

theorem exponent?_of_ends {rest : List Char} (h : Ends rest) : exponent? rest = none := by
  unfold exponent?
  split
  next e more =>
    obtain ⟨-, -, hsmall, hlarge⟩ := h e rfl
    exact if_neg (by simp [hsmall, hlarge])
  next => rfl

/-- A number with a sign or none is read from its digits. -/
theorem number?_toDigits (n : Nat) {rest : List Char} (h : Ends rest) :
    number? (Nat.toDigits 10 n ++ rest) = some (.int n, rest) ∧
      number? ('-' :: (Nat.toDigits 10 n ++ rest)) = some (.int (-n), rest) := by
  obtain ⟨htaken, hleft⟩ := span_toDigits n h
  have hzero : ¬((Nat.toDigits 10 n).length ≠ 1 ∧ (Nat.toDigits 10 n).head? = some '0') := by
    rintro ⟨hlength, hhead⟩
    rw [eq_zero_of_head?_toDigits hhead] at hlength
    exact hlength rfl
  have hvalue := natOfDigits_toDigits n
  have hfraction := fraction?_of_ends h
  have hexponent := exponent?_of_ends h
  have hdigit : ∀ c ∈ Nat.toDigits 10 n, c.isDigit = true := fun c => isDigit_of_mem_toDigits
  cases hdigits : Nat.toDigits 10 n with
  | nil => exact absurd hdigits Nat.toDigits_ne_nil
  | cons d ds =>
    rw [hdigits] at htaken hleft hzero hvalue hdigit
    -- The digits have no sign in front, by which the first case of the reader is ruled out.
    have hsign : ∀ more, d :: (ds ++ rest) = '-' :: more → False := by
      intro more heq
      have hminus := hdigit d List.mem_cons_self
      rw [(List.cons.inj heq).1] at hminus
      exact absurd hminus (by decide)
    rw [List.cons_append] at htaken hleft ⊢
    constructor
    · unfold number?
      simp only [htaken, hleft, if_neg hzero, hvalue, hfraction, hexponent, Bool.false_eq_true,
        if_false]
    · unfold number?
      simp only [htaken, hleft, if_neg hzero, hvalue, hfraction, hexponent, Bool.false_eq_true,
        if_false, if_true]

/-- What starts with a digit, or with a sign and a digit, is read as a number. -/
theorem value_eq_number? {d : Char} (hd : d.isDigit = true) (fuel : Nat) (more : List Char) :
    value (fuel + 1) (d :: more) = number? (d :: more) ∧
      value (fuel + 1) ('-' :: d :: more) = number? ('-' :: d :: more) := by
  have hne (c : Char) (hc : c.isDigit = false) : d ≠ c := by
    rintro rfl
    exact absurd (hd.symm.trans hc) Bool.true_eq_false.mp
  constructor
  · rw [value]
    all_goals
      intro _ heq
      exact hne _ (by decide) (List.cons.inj heq).1
  · rw [value]
    all_goals
      intro _ heq
      first
      | exact absurd (List.cons.inj heq).1 (by decide)
      | exact hne 'I' (by decide) (List.cons.inj (List.cons.inj heq).2).1

theorem exists_digit_toDigits (n : Nat) :
    ∃ d ds, Nat.toDigits 10 n = d :: ds ∧ d.isDigit = true := by
  obtain ⟨d, ds, hdigits⟩ := List.exists_cons_of_ne_nil (Nat.toDigits_ne_nil (n := n) (b := 10))
  exact ⟨d, ds, hdigits, isDigit_of_mem_toDigits (hdigits ▸ List.mem_cons_self)⟩

/-- An integer is read from its text. -/
theorem value_intText (n : Int) (fuel : Nat) {rest : List Char} (h : Ends rest) :
    value (fuel + 1) (intText n ++ rest) = some (.int n, rest) := by
  obtain ⟨d, ds, hdigits, hd⟩ := exists_digit_toDigits n.natAbs
  obtain ⟨hbare, hsigned⟩ := number?_toDigits n.natAbs h
  obtain ⟨hvalue, hvalue'⟩ := value_eq_number? hd fuel (ds ++ rest)
  rw [hdigits, List.cons_append] at hbare hsigned
  rw [intText, hdigits]
  split
  case isTrue hneg =>
    rw [List.cons_append, List.cons_append, hvalue', hsigned]
    congr
    omega
  case isFalse hnot =>
    rw [List.cons_append, hvalue, hbare]
    congr
    omega

end SourceConventions.Json
