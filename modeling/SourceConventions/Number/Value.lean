import SourceConventions.Number.Shortest

/-!
# Numbers of source texts

A literal is an integer, a real or an imaginary number, possibly under one sign. Numbers of
different kinds are compared by value, exactly.
-/

namespace SourceConventions

open Number in
inductive Numeral where
  | integer (value : Int)
  | real (value : Binary64)
  /-- `value` times the imaginary unit; `negated` tells that a minus sign stands before it. -/
  | imaginary (negated : Bool) (value : Binary64)
  deriving DecidableEq, Repr, Inhabited

namespace Numeral

open Number

def neg : Numeral → Numeral
  | .integer n => .integer (-n)
  | .real x => .real x.neg
  | .imaginary s x => .imaginary (!s) x

/-- The signed factor of the imaginary unit. -/
def imaginaryPart (negated : Bool) (x : Binary64) : Binary64 :=
  if negated then x.neg else x

/-- Whether two numbers have the same value. -/
def same : Numeral → Numeral → Bool
  | .integer a, .integer b => a == b
  | .integer a, .real y => y.compareInt? a == some .eq
  | .real x, .integer b => x.compareInt? b == some .eq
  | .real x, .real y => x.compare? y == some .eq
  | .imaginary s x, .imaginary t y =>
    (imaginaryPart s x).compare? (imaginaryPart t y) == some .eq
  | .imaginary _ x, .integer b => x.compareInt? 0 == some .eq && b == 0
  | .integer a, .imaginary _ y => y.compareInt? 0 == some .eq && a == 0
  | .imaginary _ x, .real y => x.compareInt? 0 == some .eq && y.compareInt? 0 == some .eq
  | .real x, .imaginary _ y => x.compareInt? 0 == some .eq && y.compareInt? 0 == some .eq

/-- Whether the value is below that of the other; imaginary numbers have no order. -/
def below : Numeral → Numeral → Bool
  | .integer a, .integer b => a < b
  | .integer a, .real y => y.compareInt? a == some .gt
  | .real x, .integer b => x.compareInt? b == some .lt
  | .real x, .real y => x.compare? y == some .lt
  | _, _ => false

/-- The distance from zero. -/
def abs : Numeral → Numeral
  | .integer n => .integer n.natAbs
  | .real x => .real x.abs
  | .imaginary _ x => .real x.abs

/-- Whether the value is that of the other or above it. -/
def atLeast (x least : Numeral) : Bool := least.below x || x.same least

/-- The most digits with which an integer is written or read in decimal. -/
def maxDigits : Nat := 4300

/-- What is said about an integer that has too many digits to be written. -/
def tooManyDigitsText : String :=
  s!"Exceeds the limit ({maxDigits} digits) for integer string conversion; "
    ++ "use sys.set_int_max_str_digits() to increase the limit"

/-- The decimal text of an integer, or `none` when it has too many digits. -/
def integerText? (n : Int) : Option String :=
  let digits := Nat.toDigits 10 n.natAbs
  if maxDigits < digits.length then none
  else some (String.ofList (if n < 0 then '-' :: digits else digits))

def imaginaryText (negated : Bool) (x : Binary64) : List Char :=
  if negated then
    let body := imaginaryLayout.text x.neg
    let signed := if x.neg.isNegative then body else '+' :: body
    ['(', '-', '0'] ++ signed ++ ['j', ')']
  else imaginaryLayout.text x ++ ['j']

/-- The text of a number as it is shown to a reader. -/
def text? : Numeral → Option String
  | .integer n => integerText? n
  | .real x => some (String.ofList (realLayout.text x))
  | .imaginary s x => some (String.ofList (imaginaryText s x))

end Numeral

end SourceConventions
