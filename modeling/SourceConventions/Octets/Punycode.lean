import SourceConventions.Octets.Utf8

/-!
# Punycode

The characters of ASCII stand in front, the others follow a hyphen as numbers: each says how far to
go from one character and one place to the next ones. A number is written with digits of a base of
thirty-six whose thresholds adapt to the numbers before.
-/

namespace SourceConventions.Punycode

inductive Fault where
  /-- An octet beyond ASCII. -/
  | notAscii
  | cutOff
  | badDigit (c : Char)
  | beyondUnicode (n : Nat)
  deriving DecidableEq, Repr

/-- What is said of a fault that is none of single octets. -/
def Fault.text : Fault → String
  | .notAscii => "ordinal not in range(128)"
  | .cutOff => "incomplete punicode string"
  | .badDigit c => s!"Invalid extended code point '{c}'"
  | .beyondUnicode n => s!"Invalid character U+{String.ofList (Nat.toDigits 16 n)}"

/-- The threshold of a digit: the digit that is smaller ends a number. -/
def threshold (place bias : Nat) : Nat :=
  if place ≤ bias then 1 else min 26 (place - bias)

theorem threshold_pos (place bias : Nat) : 1 ≤ threshold place bias := by
  unfold threshold
  split <;> omega

theorem threshold_le (place bias : Nat) : threshold place bias ≤ 26 := by
  unfold threshold
  split <;> omega

/-- Divides until a number is small, counting thirty-six for each division. -/
def shrink (n counted : Nat) : Nat × Nat :=
  if 455 < n then shrink (n / 35) (counted + 36) else (n, counted)
termination_by n
decreasing_by exact Nat.div_lt_self (by omega) (by omega)

/-- The bias behind a number, with the count of characters that are placed then. -/
def adapt (n count : Nat) (isFirst : Bool) : Nat :=
  let halved := if isFirst then n / 700 else n / 2
  let (small, counted) := shrink (halved + halved / count) 0
  counted + 36 * small / (small + 38)

/-! ### Reading -/

def digitValue? (c : Char) : Option Nat :=
  if 'A' ≤ c ∧ c ≤ 'Z' then some (c.toNat - 'A'.toNat)
  else if c.isDigit then some (c.toNat - '0'.toNat + 26)
  else none

/-- A number and the digits behind it; `weight` is that of the next digit. -/
def number (bias : Nat) (place weight sum : Nat) :
    List Char → Except Fault (Nat × List Char)
  | [] => .error .cutOff
  | c :: rest =>
    match digitValue? c with
    | none => .error (.badDigit c)
    | some d =>
      let t := threshold place bias
      if d < t then .ok (sum + d * weight, rest)
      else number bias (place + 36) (weight * (36 - t)) (sum + d * weight) rest

theorem length_of_number {bias : Nat} : ∀ {cs : List Char} {place weight sum : Nat}
    {r : Nat × List Char}, number bias place weight sum cs = .ok r → r.2.length < cs.length
  | [], _, _, _, _, h => by simp [number] at h
  | c :: rest, place, weight, sum, r, h => by
    rw [number] at h
    split at h
    · simp at h
    · dsimp only at h
      split at h
      · simp only [Except.ok.injEq] at h
        simp [← h]
      · have := length_of_number h
        simp only [List.length_cons]
        omega

/-- Where the next character goes. -/
structure Place where
  code : Nat
  index : Nat
  bias : Nat
  isFirst : Bool

def charOf (n : Nat) : Char := if n.isValidChar then Char.ofNat n else '\ufffd'

/-- The characters with those that digits put between them. -/
def insertAll (p : Place) (cs : List Char) (digits : List Char) : Except Fault (List Char) :=
  match digits with
  | [] => .ok cs
  | d :: ds =>
    match h : number p.bias 36 1 0 (d :: ds) with
    | .error f => .error f
    | .ok (n, rest) =>
      let count := cs.length + 1
      let code := p.code + (p.index + n) / count
      let index := (p.index + n) % count
      if 0x10ffff < code then .error (.beyondUnicode code)
      else
        insertAll ⟨code, index + 1, adapt n count p.isFirst, false⟩
          (cs.insertIdx index (charOf code)) rest
termination_by digits.length
decreasing_by exact length_of_number h

def ascii? (octets : Octets) : Except Fault (List Char) :=
  if octets.all fun b => b.toNat < 0x80 then .ok (octets.map fun b => Char.ofNat b.toNat)
  else .error .notAscii

def decode (octets : Octets) : Except Fault (List Char) := do
  let behind := (octets.reverse.takeWhile (· != 0x2d)).reverse
  let front := octets.take (octets.length - behind.length - 1)
  let cs ← ascii? front
  let digits ← ascii? behind
  insertAll ⟨0x80, 0, 72, true⟩ cs (digits.map Char.toUpper)

/-! ### Writing -/

def digitChar (d : Nat) : Char :=
  if d < 26 then Char.ofNat ('a'.toNat + d) else Char.ofNat ('0'.toNat + d - 26)

/-- The digits of a number. -/
def digitsOf (bias place n : Nat) : List Char :=
  let t := threshold place bias
  if n < t then [digitChar n]
  else digitChar (t + (n - t) % (36 - t)) :: digitsOf bias (place + 36) ((n - t) / (36 - t))
termination_by n
decreasing_by
  have hpos := threshold_pos place bias
  have hshrinks := Nat.div_le_self (n - threshold place bias) (36 - threshold place bias)
  omega

/-- A text of which a part has been written. -/
structure Writing where
  /-- The digits, last one first. -/
  digits : List Char
  /-- The number to come so far. -/
  delta : Nat
  bias : Nat
  /-- How many characters have been placed. -/
  placed : Nat
  isFirst : Bool

/-- Goes past a character on the way to those with a code. -/
def Writing.pass (code : Nat) (w : Writing) (c : Char) : Writing :=
  if c.toNat < code then { w with delta := w.delta + 1 }
  else if c.toNat = code then
    ⟨(digitsOf w.bias 36 w.delta).reverse ++ w.digits, 0,
      adapt w.delta (w.placed + 1) w.isFirst, w.placed + 1, false⟩
  else w

/-- Writes all characters with some codes, from a code on. -/
def Writing.addAll (cs : List Char) (w : Writing) (from_ : Nat) : List Nat → Writing
  | [] => w
  | code :: codes =>
    let start := { w with delta := w.delta + (code - from_) * (w.placed + 1) }
    let behind := cs.foldl (Writing.pass code) start
    Writing.addAll cs { behind with delta := behind.delta + 1 } (code + 1) codes

def isAscii (c : Char) : Bool := c.toNat < 0x80

def encode (cs : List Char) : List Char :=
  let front := cs.filter isAscii
  let codes := ((cs.filter (!isAscii ·)).map Char.toNat).mergeSort.eraseReps
  let w := Writing.addAll cs ⟨[], 0, 72, front.length, true⟩ 0x80 codes
  (if front.isEmpty then [] else front ++ ['-']) ++ w.digits.reverse

end SourceConventions.Punycode
