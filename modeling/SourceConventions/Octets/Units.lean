import SourceConventions.Octets.Utf7

/-!
# UTF-16 and UTF-32

Units of two or four octets are written with either the largest or the smallest octet first.
-/

namespace SourceConventions

/-- Which octet of a unit comes first. -/
inductive OctetOrder where
  | littleEndian
  | bigEndian
  deriving DecidableEq, Repr

namespace Units

inductive Fault where
  | cutOff
  | cutPair
  | lowAlone
  | highAlone
  | surrogate
  | beyondUnicode
  deriving DecidableEq, Repr

def Fault.text : Fault → String
  | .cutOff => "truncated data"
  | .cutPair => "unexpected end of data"
  | .lowAlone => "illegal encoding"
  | .highAlone => "illegal UTF-16 surrogate"
  | .surrogate => "code point in surrogate code point range(0xd800, 0xe000)"
  | .beyondUnicode => "code point not in range(0x110000)"

/-- The number of octets in the order of an encoding. -/
def number (o : OctetOrder) (octets : Octets) : Nat :=
  let big := match o with
    | .bigEndian => octets
    | .littleEndian => octets.reverse
  big.foldl (fun n b => n * 256 + b.toNat) 0

/-- The octets of a unit of some octets. -/
def octets (o : OctetOrder) (width n : Nat) : Octets :=
  let little := (List.range width).map fun i => (n / Nat.pow 256 i % 256).toUInt8
  match o with
  | .littleEndian => little
  | .bigEndian => little.reverse

/-- The characters of units of two octets behind some that have been read, last one first. -/
def decode16From (o : OctetOrder) (read : List Char) : Octets → Except Fault (List Char)
  | [] => .ok read.reverse
  | [_] => .error .cutOff
  | a :: b :: rest =>
    let unit := number o [a, b]
    if Utf7.isLow unit then .error .lowAlone
    else if Utf7.isHigh unit then
      match rest with
      | c :: d :: more =>
        let low := number o [c, d]
        if Utf7.isLow low then decode16From o (Utf7.joined unit low :: read) more
        else .error .highAlone
      | _ => .error .cutPair
    else decode16From o (Char.ofNat unit :: read) rest

/-- The characters of units of four octets behind some that have been read, last one first. -/
def decode32From (o : OctetOrder) (read : List Char) : Octets → Except Fault (List Char)
  | [] => .ok read.reverse
  | a :: b :: c :: d :: rest =>
    let n := number o [a, b, c, d]
    if 0x10ffff < n then .error .beyondUnicode
    else if n.isValidChar then decode32From o (Char.ofNat n :: read) rest
    else .error .surrogate
  | _ => .error .cutOff

/-- The width of the units of an encoding. -/
inductive Width where
  | two
  | four
  deriving DecidableEq, Repr

def Width.octets : Width → Nat
  | .two => 2
  | .four => 4

def decode (w : Width) (o : OctetOrder) (octets : Octets) : Except Fault (List Char) :=
  match w with
  | .two => decode16From o [] octets
  | .four => decode32From o [] octets

/-- The mark that tells the order. -/
def mark : Nat := 0xfeff

def encode (w : Width) (o : OctetOrder) (cs : List Char) : Octets :=
  match w with
  | .two => (cs.flatMap Utf7.units).flatMap (octets o w.octets)
  | .four => cs.flatMap fun c => octets o w.octets c.toNat

end Units

end SourceConventions
