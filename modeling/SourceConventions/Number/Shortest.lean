import SourceConventions.Number.Binary64

/-!
# The shortest decimal that reads back

The reals that round to a binary number form an interval, closed when the mantissa is even. For
one digit, two digits and so on the two neighbours of the value on the decimal grid are tested,
and the first grid with a neighbour in the interval gives the digits; of two neighbours the nearer
is taken, and the even one at equal distance.
-/

namespace SourceConventions.Number

/-- Digits `d` and a point position `p` that stand for `0.d * 10 ^ p`. -/
structure Digits where
  digits : List Char
  point : Int
  deriving DecidableEq, Repr, Inhabited

namespace Shortest

def decimalDigits (n : Nat) : List Char := Nat.toDigits 10 n

/-- The least `k` up to the bound with `den ≤ num * 10 ^ (k + 1)`. -/
def leadingZeros (den : Nat) : Nat → Nat → Nat
  | 0, _ => 0
  | fuel + 1, num => if den ≤ num * 10 then 0 else leadingZeros den fuel (num * 10) + 1

/-- The `p` with `10 ^ (p - 1) ≤ num / den < 10 ^ p`. -/
def pointOf (num den : Nat) : Int :=
  if den ≤ num then ((decimalDigits (num / den)).length : Int)
  else -(leadingZeros den 330 num : Int)

/-- The interval of a positive mantissa and its value, as integers over one denominator. -/
structure Window where
  low : Nat
  value : Nat
  high : Nat
  den : Nat
  closed : Bool

def Window.of (m : Nat) (e : Int) : Window :=
  let narrow := m = Nat.pow 2 52 ∧ -1074 < e
  let up := if 0 ≤ e then Nat.pow 2 e.toNat else 1
  let down := if 0 ≤ e then 1 else Nat.pow 2 (-e).toNat
  { low := (4 * m - if narrow then 1 else 2) * up
    value := 4 * m * up
    high := (4 * m + 2) * up
    den := 4 * down
    closed := m % 2 = 0 }

/-- Whether `num / den` lies in the interval. -/
def Window.contains (w : Window) (num den : Nat) : Bool :=
  if w.closed then w.low * den ≤ num * w.den && num * w.den ≤ w.high * den
  else w.low * den < num * w.den && num * w.den < w.high * den

/-- The better neighbour on the grid of steps `10 ^ (point - places)`, if one reads back. -/
def onGrid (w : Window) (point : Int) (places : Nat) : Option Nat :=
  let step : Int := point - places
  let unit := if 0 ≤ step then Nat.pow 10 step.toNat else 1
  let den := if 0 ≤ step then 1 else Nat.pow 10 (-step).toNat
  let below := w.value * den / (w.den * unit)
  let lowFits := w.contains (below * unit) den
  let highFits := w.contains ((below + 1) * unit) den
  if lowFits && highFits then
    let gap := w.value * den - below * unit * w.den
    let step := unit * w.den
    if 2 * gap < step then some below
    else if step < 2 * gap then some (below + 1)
    else if below % 2 = 0 then some below else some (below + 1)
  else if lowFits then some below
  else if highFits then some (below + 1)
  else none

def search (w : Window) (point : Int) : Nat → Nat → Nat × Nat
  | 0, places => (w.value / w.den, places)
  | fuel + 1, places =>
    match onGrid w point places with
    | some d => (d, places)
    | none => search w point fuel (places + 1)

def dropTrailingZeros (cs : List Char) : List Char :=
  (cs.reverse.dropWhile (· == '0')).reverse

/-- The digits of `m * 2 ^ e` for a positive mantissa. -/
def ofFinite (m : Nat) (e : Int) : Digits :=
  let w := Window.of m e
  let point := pointOf w.value w.den
  let (d, places) := search w point 18 1
  let text := decimalDigits d
  -- a candidate that reaches the next power of ten has one digit more than asked for
  { digits := dropTrailingZeros text, point := point + (text.length - places : Int) }

end Shortest

/-- How a decimal is laid out. -/
structure Layout where
  /-- Points above this and up to `maxPoint` are written without an exponent. -/
  minPoint : Int
  maxPoint : Int
  /-- Whether a whole number ends in `.0`. -/
  pointZero : Bool

namespace Layout

def exponentText (n : Int) : List Char :=
  let sign := if n < 0 then '-' else '+'
  let digits := Shortest.decimalDigits n.natAbs
  let digits := if digits.length < 2 then '0' :: digits else digits
  'e' :: sign :: digits

def digitsText (layout : Layout) (d : Digits) : List Char :=
  let n := d.digits.length
  if layout.minPoint < d.point ∧ d.point ≤ layout.maxPoint then
    if d.point ≤ 0 then '0' :: '.' :: List.replicate (-d.point).toNat '0' ++ d.digits
    else if (n : Int) ≤ d.point then
      d.digits ++ List.replicate (d.point.toNat - n) '0'
        ++ (if layout.pointZero then ['.', '0'] else [])
    else d.digits.take d.point.toNat ++ '.' :: d.digits.drop d.point.toNat
  else
    match d.digits with
    | [] => []
    | c :: [] => c :: exponentText (d.point - 1)
    | c :: rest => c :: '.' :: rest ++ exponentText (d.point - 1)

def text (layout : Layout) : Binary64 → List Char
  | .undefined => ['n', 'a', 'n']
  | .infinite s => (if s then ['-'] else []) ++ ['i', 'n', 'f']
  | .finite s m e =>
    let sign := if s then ['-'] else []
    if m = 0 then sign ++ '0' :: (if layout.pointZero then ['.', '0'] else [])
    else sign ++ layout.digitsText (Shortest.ofFinite m e)

end Layout

/-- Numbers below `10 ^ 16` are written in full and keep a fraction. -/
def realLayout : Layout := ⟨-4, 16, true⟩

/-- Parts of an imaginary number drop an empty fraction. -/
def imaginaryLayout : Layout := ⟨-4, 16, false⟩

end SourceConventions.Number
