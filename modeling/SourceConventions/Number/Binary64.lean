/-!
# Binary floating point numbers of 64 bits

A finite number is a sign, an integer below `2 ^ 53` and a power of two that is at least
`2 ^ (-1074)`. Decimal texts are rounded to the nearest such number, a half going to the even
neighbour, and all arithmetic here is exact.
-/

namespace SourceConventions.Number

inductive Binary64 where
  | finite (negative : Bool) (mantissa : Nat) (exponent : Int)
  | infinite (negative : Bool)
  | undefined
  deriving DecidableEq, Repr, Inhabited

namespace Binary64

def zero (negative : Bool) : Binary64 := .finite negative 0 (-1074)

/-- The nearest integer to `num / den`, a half going to the even neighbour. -/
def roundHalfEven (num den : Nat) : Nat :=
  let q := num / den
  let r := num % den
  if 2 * r < den then q
  else if den < 2 * r then q + 1
  else if q % 2 = 0 then q else q + 1

/-- The integers `a` and `b` with `a / b = num / den / 2 ^ e`. -/
def scaleDown (num den : Nat) (e : Int) : Nat × Nat :=
  if 0 ≤ e then (num, den * Nat.pow 2 e.toNat) else (num * Nat.pow 2 (-e).toNat, den)

/-- The exponent that leaves a quotient of 53 bits, not below the least one. -/
def exponentOf (num den : Nat) : Int :=
  let guess : Int := (num.log2 : Int) - (den.log2 : Int) - 52
  let (a, b) := scaleDown num den guess
  let e :=
    if a / b < Nat.pow 2 52 then guess - 1
    else if Nat.pow 2 53 ≤ a / b then guess + 1
    else guess
  max e (-1074)

/-- The number nearest to `num / den`, where `den` is not zero. -/
def ofRatio (negative : Bool) (num den : Nat) : Binary64 :=
  if num = 0 then zero negative
  else
    let e := exponentOf num den
    let (a, b) := scaleDown num den e
    let m := roundHalfEven a b
    let (m, e) := if m = Nat.pow 2 53 then (Nat.pow 2 52, e + 1) else (m, e)
    if 971 < e then .infinite negative else .finite negative m e

/-- The number nearest to `digits * 10 ^ exponent`. Exponents at which every number is
infinite or zero are decided without computing the power. -/
def ofDecimal (negative : Bool) (digits : Nat) (exponent : Int) : Binary64 :=
  if digits = 0 then zero negative
  else
    let magnitude : Int := (digits.log2 : Int) / 4 + exponent
    if 400 < magnitude then .infinite negative
    else if (digits.log2 : Int) + exponent < -400 then zero negative
    else if 0 ≤ exponent then ofRatio negative (digits * Nat.pow 10 exponent.toNat) 1
    else ofRatio negative digits (Nat.pow 10 (-exponent).toNat)

def isNegative : Binary64 → Bool
  | .finite s _ _ => s
  | .infinite s => s
  | .undefined => false

def neg : Binary64 → Binary64
  | .finite s m e => .finite (!s) m e
  | .infinite s => .infinite (!s)
  | .undefined => .undefined

def abs : Binary64 → Binary64
  | .finite _ m e => .finite false m e
  | .infinite _ => .infinite false
  | .undefined => .undefined

/-- A finite value as a quotient `num / den` with a positive denominator. -/
def ratio? : Binary64 → Option (Int × Nat)
  | .finite s m e =>
    let (a, b) := if 0 ≤ e then (m * Nat.pow 2 e.toNat, 1) else (m, Nat.pow 2 (-e).toNat)
    some (if s then -(a : Int) else (a : Int), b)
  | _ => none

/-- The order of two numbers by value; `none` when one is no number. -/
def compare? : Binary64 → Binary64 → Option Ordering
  | .undefined, _ => none
  | _, .undefined => none
  | .infinite s, .infinite t => some (compare (if s then 0 else 1) (if t then 0 else 1))
  | .infinite s, _ => some (if s then .lt else .gt)
  | _, .infinite t => some (if t then .gt else .lt)
  | x, y =>
    match x.ratio?, y.ratio? with
    | some (a, b), some (c, d) => some (compare (a * d) (c * b))
    | _, _ => none

/-- The order of a number and an integer by value. -/
def compareInt? (x : Binary64) (n : Int) : Option Ordering :=
  match x with
  | .undefined => none
  | .infinite s => some (if s then .lt else .gt)
  | .finite .. =>
    match x.ratio? with
    | some (a, b) => some (compare a (n * b))
    | none => none

end Binary64

end SourceConventions.Number
