import SourceConventions.Octets.Utf8

/-!
# Texts of octet sequences

Where a character may take several octets, or a state decides what octets mean, a text is read and
written front to back. `decodeFrom` reads with a function that tells what octets open with,
`encodeFrom` writes with one that tells how characters begin to be written.
-/

namespace SourceConventions.Sequence

/-- What octets open with. -/
inductive Opening (σ : Type) where
  | chars (cs : List Char) (width : Nat) (next : σ)
  | illegal
  | incomplete

inductive Fault where
  | illegal
  | incomplete
  deriving DecidableEq, Repr

/-- The characters of octets behind some that have been read, whose characters are given last one
first. -/
def decodeFrom {σ : Type} (opening : σ → Octets → Opening σ) (state : σ) (read : List Char) :
    Octets → Except Fault (List Char)
  | [] => .ok read.reverse
  | b :: rest =>
    match opening state (b :: rest) with
    | .chars cs width next =>
      decodeFrom opening next (cs.reverse ++ read) (rest.drop (width - 1))
    | .illegal => .error .illegal
    | .incomplete => .error .incomplete
termination_by octets => octets.length
decreasing_by all_goals (simp; try omega)

/-- How characters begin to be written. -/
inductive Start (σ : Type) where
  | octets (bs : Octets) (count : Nat) (next : σ)
  | lacking
  /-- What is written depends on a character to come. -/
  | waiting

/-- The octets of characters behind some that have been written, whose octets are given last one
first; else the number of characters before one that is lacking. -/
def encodeFrom {σ : Type} (start : σ → List Char → Start σ) (position : Nat) (state : σ)
    (written : Octets) : List Char → Except (Nat × Char) Octets
  | [] => .ok written.reverse
  | c :: rest =>
    match start state (c :: rest) with
    | .octets bs count next =>
      encodeFrom start (position + max 1 count) next (bs.reverse ++ written)
        (rest.drop (count - 1))
    | .lacking => .error (position, c)
    | .waiting => .ok written.reverse
termination_by cs => cs.length
decreasing_by all_goals (simp; try omega)

/-- Whether an octet stands for the character of ASCII with its number. -/
def isPlain (b : UInt8) : Bool := b.toNat < 0x80

def plain (b : UInt8) : List Char := [Char.ofNat b.toNat]

/-- What octets open with where a character of ASCII takes one of them and every other character
two. -/
def openingOfPairs (char? : Nat → Option (List Char)) : Octets → Opening Unit
  | [] => .incomplete
  | a :: rest =>
    if isPlain a then .chars (plain a) 1 ()
    else
      match rest with
      | [] => .incomplete
      | b :: _ =>
        match char? (a.toNat * 256 + b.toNat) with
        | some cs => .chars cs 2 ()
        | none => .illegal

/-- The octets of a number of up to four octets, without zeros in front. -/
def octetsOf (n : Nat) : Octets :=
  let all := [n / 0x1000000, n / 0x10000 % 256, n / 256 % 256, n % 256]
  (all.dropWhile (· == 0)).map Nat.toUInt8

/-- How characters begin to be written where one of ASCII is an octet and any other a number. -/
def startOfNumbers (number? : Char → Option Nat) : List Char → Start Unit
  | [] => .octets [] 0 ()
  | c :: _ =>
    if c.toNat < 0x80 then .octets [c.toNat.toUInt8] 1 ()
    else
      match number? c with
      | some n => .octets (octetsOf n) 1 ()
      | none => .lacking

end SourceConventions.Sequence
