/-!
# UTF-8

A text is read octet by octet. Behind the first octet of a character a number of others is owed,
the next of which has to be between two bounds.
-/

namespace SourceConventions

abbrev Octets := List UInt8

namespace Utf8

def ofString (s : String) : Octets := s.toUTF8.toList

inductive Reason where
  | start
  | continuation
  | ending
  deriving DecidableEq, Repr

def Reason.text : Reason → String
  | .start => "invalid start byte"
  | .continuation => "invalid continuation byte"
  | .ending => "unexpected end of data"

/-- The octets from a position on that are no character. -/
structure Fault where
  position : Nat
  octets : Octets
  reason : Reason
  deriving DecidableEq, Repr

/-- A character of which not all octets have been read. -/
structure Partial where
  /-- The octets that have been read, the last one first. -/
  taken : Octets
  code : Nat
  owed : Nat
  low : Nat
  high : Nat

def Partial.none : Partial := ⟨[], 0, 0, 0, 0⟩

/-- What a first octet starts. -/
def start? (b : UInt8) : Option Partial :=
  let n := b.toNat
  if n < 0x80 then some ⟨[b], n, 0, 0, 0⟩
  else if n < 0xc2 then Option.none
  else if n < 0xe0 then some ⟨[b], n % 0x20, 1, 0x80, 0xbf⟩
  else if n < 0xf0 then
    some ⟨[b], n % 0x10, 2, if n = 0xe0 then 0xa0 else 0x80, if n = 0xed then 0x9f else 0xbf⟩
  else if n < 0xf5 then
    some ⟨[b], n % 8, 3, if n = 0xf0 then 0x90 else 0x80, if n = 0xf4 then 0x8f else 0xbf⟩
  else Option.none

def Partial.add (p : Partial) (b : UInt8) : Partial :=
  ⟨b :: p.taken, p.code * 0x40 + b.toNat % 0x40, p.owed - 1, 0x80, 0xbf⟩

/-- The characters of octets; `position` is where the character starts that is being read. -/
def decodeFrom (position : Nat) (p : Partial) : Octets → Except Fault (List Char)
  | [] => if p.owed = 0 then .ok [] else .error ⟨position, p.taken.reverse, .ending⟩
  | b :: rest =>
    if p.owed = 0 then
      match start? b with
      | Option.none => .error ⟨position, [b], .start⟩
      | some q =>
        if q.owed = 0 then (decodeFrom (position + 1) .none rest).map (Char.ofNat q.code :: ·)
        else decodeFrom position q rest
    else if p.low ≤ b.toNat ∧ b.toNat ≤ p.high then
      let q := p.add b
      if q.owed = 0 then
        (decodeFrom (position + q.taken.length) .none rest).map (Char.ofNat q.code :: ·)
      else decodeFrom position q rest
    else .error ⟨position, p.taken.reverse, .continuation⟩

def decode (octets : Octets) : Except Fault (List Char) := decodeFrom 0 .none octets

def hexPair (b : UInt8) : String :=
  let digits := Nat.toDigits 16 b.toNat
  String.ofList (List.replicate (2 - digits.length) '0' ++ digits)

def Fault.text (f : Fault) : String :=
  let wrong :=
    match f.octets with
    | [b] => s!"byte 0x{hexPair b} in position {f.position}"
    | bs => s!"bytes in position {f.position}-{f.position + bs.length - 1}"
  s!"'utf-8' codec can't decode {wrong}: {f.reason.text}"

end Utf8

end SourceConventions
