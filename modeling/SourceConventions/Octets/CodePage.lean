import SourceConventions.Octets.Inverse
import SourceConventions.Octets.Utf8

/-!
# Character sets of one octet a character
-/

namespace SourceConventions

/-- The characters of the last octets; the octets before those are ASCII. The last code point but
one of the basic plane stands for an octet that is no character. -/
structure CodePage where
  table : String
  deriving DecidableEq, Repr

namespace CodePage

def isAbsent (c : Char) : Bool := c.toNat == 0xfffe

/-- The number of octets. -/
def octetCount : Nat := 256

/-- The character of an octet in a table of the last octets. -/
def charIn? (table : Array Char) (n : Nat) : Option Char :=
  if n + table.size < octetCount then some (Char.ofNat n)
  else (table[n + table.size - octetCount]?).filter (!isAbsent ·)

/-- The characters of octets, if all of them are. -/
def decode? (p : CodePage) (octets : Octets) : Option (List Char) :=
  let table := p.table.toList.toArray
  octets.mapM fun b => charIn? table b.toNat

/-- The octets of characters, of several the last one. -/
def inverse (p : CodePage) : Inverse :=
  .ofNumbers .last (charIn? p.table.toList.toArray) (List.range octetCount)

end CodePage

end SourceConventions
