import SourceConventions.Octets.CharsetName
import SourceConventions.Text.Quoted

/-!
# Octets of a text

`Charset.encode` writes a text and tells which of its characters a character set does not have.
-/

namespace SourceConventions

/-- Why a character set has no octets for a character. -/
inductive Lack where
  /-- The set has only codes below a limit. -/
  | beyond (limit : Nat)
  | absent
  | illegal
  deriving DecidableEq, Repr

def Lack.text : Lack → String
  | .beyond limit => s!"ordinal not in range({limit})"
  | .absent => "character maps to <undefined>"
  | .illegal => "illegal multibyte sequence"

/-- Characters of a text from a position on that a character set does not have. -/
structure Unencodable where
  charset : String
  position : Nat
  chars : List Char
  lack : Lack
  deriving DecidableEq, Repr

def Unencodable.text (f : Unencodable) : String :=
  let wrong :=
    match f.chars with
    | [c] => s!"character '{String.ofList (Text.codeEscape c)}' in position {f.position}"
    | cs => s!"characters in position {f.position}-{f.position + cs.length - 1}"
  s!"'{f.charset}' codec can't encode {wrong}: {f.lack.text}"

inductive EncodingFault where
  | unencodable (fault : Unencodable)
  | refused (refusal : CharsetRefusal)
  deriving DecidableEq, Repr

namespace EncodingFault

def kind : EncodingFault → String
  | .unencodable _ => "UnicodeEncodeError"
  | .refused _ => "UnicodeError"

def text : EncodingFault → String
  | .unencodable f => f.text
  | .refused r => r.text

end EncodingFault

namespace Charset

/-- The octets of characters each of which has one. -/
def encodeEach (charset : String) (lack : Lack) (octet? : Char → Option Nat) (cs : List Char) :
    Except EncodingFault Octets :=
  let isKnown (c : Char) : Bool := (octet? c).isSome
  match cs.dropWhile isKnown with
  | [] => .ok (cs.filterMap fun c => (octet? c).map Nat.toUInt8)
  | rest =>
    .error (.unencodable
      ⟨charset, cs.length - rest.length, rest.takeWhile (!isKnown ·), lack⟩)

/-- The octets of characters whose codes are below a limit. -/
def encodeBelow (charset : String) (limit : Nat) (cs : List Char) :
    Except EncodingFault Octets :=
  encodeEach charset (.beyond limit) (fun c => if c.toNat < limit then some c.toNat else none) cs

/-- Characters of ASCII as octets. -/
def plainOctets (cs : List Char) : Octets := cs.map fun c => c.toNat.toUInt8

/-- A character in a text in which those that are not printable ASCII are escaped. -/
def escaped (c : Char) : List Char :=
  if c == '\\' then ['\\', '\\']
  else if c == '\t' then ['\\', 't']
  else if c == '\n' then ['\\', 'n']
  else if c == '\r' then ['\\', 'r']
  else if ' ' ≤ c ∧ c < '\x7f' then [c]
  else Text.codeEscape c

/-- The octets of a text. Nothing is added behind it, even if the set is left in a state other than
that at the start. -/
def encode (c : Charset) (text : String) : Except EncodingFault Octets :=
  let cs := text.toList
  match c with
  | .ascii => encodeBelow "ascii" 0x80 cs
  | .latin1 => encodeBelow "latin-1" 0x100 cs
  | .utf8 => .ok (Utf8.ofString text)
  | .utf8Marked => .ok (utf8Mark ++ Utf8.ofString text)
  | .utf7 => .ok (Utf7.encode cs)
  | .units width order => .ok (Units.encode width order cs)
  | .markedUnits width =>
    .ok (Units.octets .littleEndian width.octets Units.mark
      ++ Units.encode width .littleEndian cs)
  | .page table =>
    let known := table.inverse
    encodeEach "charmap" .absent (known[·]?) cs
  | .multibyte code =>
    (code.encode cs).mapError fun (position, char) =>
      .unencodable ⟨code.name, position, [char], .illegal⟩
  | .escapes => .ok (plainOctets (cs.flatMap escaped))
  | .codeEscapes =>
    .ok (plainOctets (cs.flatMap fun c => if c.toNat < 0x100 then [c] else Text.codeEscape c))
  | .punycode => .ok (plainOctets (Punycode.encode cs))
  | .hostName =>
    match HostName.encode cs with
    | .ok written => .ok (plainOctets written)
    | .error f => .error (.refused (.hostName f))
  | .empty => .error (.refused .empty)

end Charset

end SourceConventions
