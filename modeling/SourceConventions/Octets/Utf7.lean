import SourceConventions.Octets.Utf8

/-!
# UTF-7

Characters beyond ASCII stand in sections that start with `+`: their units of sixteen bits are
written six bits a character. What is no such character ends a section, and a hyphen that does is
dropped.
-/

namespace SourceConventions.Utf7

inductive Fault where
  | special
  | illFormed
  | cutCharacter
  | padding
  | unterminated
  deriving DecidableEq, Repr

def Fault.text : Fault → String
  | .special => "unexpected special character"
  | .illFormed => "ill-formed sequence"
  | .cutCharacter => "partial character in shift sequence"
  | .padding => "non-zero padding bits in shift sequence"
  | .unterminated => "unterminated shift sequence"

/-- What six bits are written as. -/
def sixBits : List Char :=
  "ABCDEFGHIJKLMNOPQRSTUVWXYZabcdefghijklmnopqrstuvwxyz0123456789+/".toList

/-- The six bits of an octet. -/
def value? (b : UInt8) : Option Nat := sixBits.idxOf? (Char.ofNat b.toNat)

def plus : UInt8 := 0x2b

def hyphen : UInt8 := 0x2d

/-- A section of which a part has been read. -/
structure Section where
  /-- The bits that make no unit yet, and how many there are. -/
  bits : Nat
  count : Nat
  /-- The first unit of a character of two. -/
  high : Option Nat

def Section.start : Section := ⟨0, 0, none⟩

def isHigh (unit : Nat) : Bool := 0xd800 ≤ unit && unit < 0xdc00

def isLow (unit : Nat) : Bool := 0xdc00 ≤ unit && unit < 0xe000

/-- The character of two units. -/
def joined (high low : Nat) : Char :=
  Char.ofNat (0x10000 + (high - 0xd800) * 0x400 + (low - 0xdc00))

/-- The character of a code, or the replacement character for a unit that stands alone. -/
def charOf (n : Nat) : Char := if n.isValidChar then Char.ofNat n else '\ufffd'

/-- A section behind one more unit, and the characters that this completes. -/
def Section.addUnit (s : Section) (unit : Nat) : List Char × Section :=
  match s.high with
  | some high =>
    if isLow unit then ([joined high unit], { s with high := none })
    else if isHigh unit then ([charOf high], { s with high := some unit })
    else ([charOf high, charOf unit], { s with high := none })
  | none =>
    if isHigh unit then ([], { s with high := some unit }) else ([charOf unit], s)

/-- A section behind six more bits, and the characters that these complete. -/
def Section.add (s : Section) (six : Nat) : List Char × Section :=
  let bits := s.bits * 64 + six
  let count := s.count + 6
  if 16 ≤ count then
    let scale := Nat.pow 2 (count - 16)
    ({ s with bits := bits % scale, count := count - 16 } : Section).addUnit (bits / scale)
  else ([], { s with bits, count })

/-- What is wrong with a section that ends. -/
def Section.fault? (s : Section) : Option Fault :=
  if 6 ≤ s.count then some .cutCharacter
  else if s.bits ≠ 0 then some .padding
  else none

/-- The characters of octets behind some that have been read, whose characters are given last one
first. -/
def decodeFrom (inside : Option Section) (read : List Char) : Octets → Except Fault (List Char)
  | [] =>
    match inside with
    | some s =>
      if s.high.isSome || s.fault?.isSome then .error .unterminated else .ok read.reverse
    | none => .ok read.reverse
  | b :: rest =>
    match inside with
    | some s =>
      match value? b with
      | some six =>
        let (chars, next) := s.add six
        decodeFrom (some next) (chars.reverse ++ read) rest
      | none =>
        match s.fault? with
        | some f => .error f
        | none =>
          let read := match s.high with
            | some high => if b.toNat < 0x80 then charOf high :: read else read
            | none => read
          if b == hyphen then decodeFrom none read rest
          else if b.toNat < 0x80 then decodeFrom none (Char.ofNat b.toNat :: read) rest
          else .error .special
    | none =>
      if b == plus then
        if rest.head? == some hyphen then decodeFrom none ('+' :: read) (rest.drop 1)
        else if rest.head?.any fun c => (value? c).isNone then .error .illFormed
        else decodeFrom (some .start) read rest
      else if b.toNat < 0x80 then decodeFrom none (Char.ofNat b.toNat :: read) rest
      else .error .special
termination_by octets => octets.length
decreasing_by all_goals (simp; try omega)

def decode (octets : Octets) : Except Fault (List Char) := decodeFrom none [] octets

/-! ### Writing -/

/-- Whether a character is written as it is. -/
def isDirect (c : Char) : Bool :=
  c == '\t' || c == '\n' || c == '\r' || (' ' ≤ c && c ≤ '\x7d' && c != '+' && c != '\\')

/-- The units of sixteen bits of a character. -/
def units (c : Char) : List Nat :=
  let n := c.toNat
  if n < 0x10000 then [n] else [0xd800 + (n - 0x10000) / 0x400, 0xdc00 + (n - 0x10000) % 0x400]

/-- The bits of units, the first ones first. -/
def bitsOf (unit : Nat) : List Bool := (List.range 16).reverse.map unit.testBit

/-- Bits in groups of six, the last of which is filled up. -/
def groups (bits : List Bool) : List Nat :=
  match bits with
  | [] => []
  | b :: more =>
    let six := b :: more.take 5
    let value := six.foldl (fun n bit => n * 2 + bit.toNat) 0
    value * Nat.pow 2 (6 - six.length) :: groups (more.drop 5)
termination_by bits.length
decreasing_by all_goals (simp; try omega)

/-- A section of characters, with a hyphen if what follows cannot end it. -/
def sectionOf (cs : List Char) (next : Option Char) : List Char :=
  let hyphen := match next with
    | none => true
    | some c => sixBits.contains c || c == '-'
  if cs.isEmpty then []
  else
    '+' :: (groups ((cs.flatMap units).flatMap bitsOf)).filterMap (sixBits[·]?)
      ++ if hyphen then ['-'] else []

/-- Characters that are not direct: a plus sign before a section has a hyphen instead of one. -/
def indirect (cs : List Char) (next : Option Char) : List Char :=
  let signs := cs.takeWhile (· == '+')
  signs.flatMap (fun _ => ['+', '-']) ++ sectionOf (cs.drop signs.length) next

/-- The characters of runs, each of which is either direct or not. -/
def encodeRuns : List (List Char) → List Char
  | [] => []
  | run :: runs =>
    (if run.all isDirect then run else indirect run (runs.head?.bind List.head?))
      ++ encodeRuns runs

def encode (cs : List Char) : Octets :=
  (encodeRuns (cs.splitBy fun a b => isDirect a == isDirect b)).map fun c => c.toNat.toUInt8

end SourceConventions.Utf7
