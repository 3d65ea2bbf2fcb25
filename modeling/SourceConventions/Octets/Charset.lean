import SourceConventions.Octets.CodePage
import SourceConventions.Octets.HostName
import SourceConventions.Octets.Multibyte
import SourceConventions.Octets.Units
import SourceConventions.Text.Escape

/-!
# Character sets

`Charset.decode` reads octets and tells why they are no text of a character set.
-/

namespace SourceConventions

inductive Charset where
  | ascii
  | latin1
  | utf8
  /-- UTF-8 behind a mark. -/
  | utf8Marked
  | utf7
  | units (width : Units.Width) (order : OctetOrder)
  /-- Units in an order that a mark at the start has to tell. -/
  | markedUnits (width : Units.Width)
  | page (table : CodePage)
  | multibyte (code : Multibyte)
  /-- Latin-1 with the escapes of text literals. -/
  | escapes
  /-- Latin-1 with escapes for the codes of other characters only. -/
  | codeEscapes
  | punycode
  | hostName
  /-- The set that has no text. -/
  | empty
  deriving DecidableEq, Repr

/-- What a name stands for: a character set, or a code that does not make texts of octets. -/
inductive Coding where
  | charset (c : Charset)
  | notText
  deriving DecidableEq, Repr

/-- Why a whole text is refused rather than octets at one of its places. -/
inductive CharsetRefusal where
  | unmarked (width : Units.Width)
  | punycode (fault : Punycode.Fault)
  | hostName (fault : HostName.Fault)
  | empty
  deriving DecidableEq, Repr

def CharsetRefusal.text : CharsetRefusal → String
  | .unmarked width => s!"UTF-{width.octets * 8} stream does not start with BOM"
  | .punycode f => f.text
  | .hostName f => f.text
  | .empty => "undefined encoding"

/-- Why octets are no text. -/
inductive CharsetFault where
  | utf8 (fault : Utf8.Fault)
  | utf7 (fault : Utf7.Fault)
  | units (fault : Units.Fault)
  | notAscii
  | absent
  | sequence (fault : Sequence.Fault)
  | escape (reason : Text.EscapeFault)
  | beyondUnicode
  | refused (refusal : CharsetRefusal)
  deriving DecidableEq, Repr

def CharsetFault.reason : CharsetFault → String
  | .utf8 fault => fault.reason.text
  | .utf7 fault => fault.text
  | .units fault => fault.text
  | .notAscii => "ordinal not in range(128)"
  | .absent => "character maps to <undefined>"
  | .sequence .illegal => "illegal multibyte sequence"
  | .sequence .incomplete => "incomplete multibyte sequence"
  | .escape reason => reason.text
  | .beyondUnicode => "\\Uxxxxxxxx out of range"
  | .refused refusal => refusal.text

namespace Charset

def ascii? (b : UInt8) : Option Char :=
  if b.toNat < 0x80 then some (Char.ofNat b.toNat) else none

/-- Octets as characters with the same codes. -/
def latin1Chars (octets : Octets) : List Char := octets.map fun b => Char.ofNat b.toNat

/-- The characters of units, the first of which may be a mark that tells their order. -/
def decodeMarked (w : Units.Width) (octets : Octets) : Except CharsetFault (List Char) :=
  let front := octets.take w.octets
  let behind := octets.drop w.octets
  if front == Units.octets .littleEndian w.octets Units.mark then
    (Units.decode w .littleEndian behind).mapError .units
  else if front == Units.octets .bigEndian w.octets Units.mark then
    (Units.decode w .bigEndian behind).mapError .units
  else
    match Units.decode w .littleEndian octets with
    | .error f => .error (.units f)
    | .ok [] => .ok []
    | .ok _ => .error (.refused (.unmarked w))

/-- The characters of a text in which codes are escaped, behind some that have been read, whose
characters are given last one first. -/
def decodeCodes (read : List Char) : Nat → List Char → Except CharsetFault (List Char)
  | 0, _ => .ok read.reverse
  | fuel + 1, cs =>
    match cs with
    | [] => .ok read.reverse
    | '\\' :: 'u' :: rest => code fuel rest 4 .shortCode
    | '\\' :: 'U' :: rest => code fuel rest 8 .longCode
    | '\\' :: c :: rest => decodeCodes (c :: '\\' :: read) fuel rest
    | c :: rest => decodeCodes (c :: read) fuel rest
where
  code (fuel : Nat) (rest : List Char) (width : Nat) (fault : Text.EscapeFault) :
      Except CharsetFault (List Char) :=
    let digits := (rest.take width).takeWhile Text.Escape.isHex
    if digits.length < width then .error (.escape fault)
    else
      let n := Text.Escape.ofDigits 16 digits
      if 0x10ffff < n then .error .beyondUnicode
      else decodeCodes (Text.Escape.charOf n :: read) fuel (rest.drop width)

/-- The mark in front of UTF-8. -/
def utf8Mark : Octets := [0xef, 0xbb, 0xbf]

def decodePunycode (octets : Octets) : Except CharsetFault (List Char) :=
  match Punycode.decode octets with
  | .ok cs => .ok cs
  | .error .notAscii => .error .notAscii
  | .error f => .error (.refused (.punycode f))

def decodeHostName (octets : Octets) : Except CharsetFault (List Char) :=
  match HostName.decode octets with
  | .ok cs => .ok cs
  | .error .notAscii => .error .notAscii
  | .error f => .error (.refused (.hostName f))

/-- The characters of octets. -/
def decode : Charset → Octets → Except CharsetFault (List Char)
  | .ascii, octets =>
    match octets.mapM ascii? with
    | some cs => .ok cs
    | none => .error .notAscii
  | .latin1, octets => .ok (latin1Chars octets)
  | .utf8, octets => (Utf8.decode octets).mapError .utf8
  | .utf8Marked, octets =>
    if octets.isPrefixOf utf8Mark then .ok []
    else
      let body := if utf8Mark.isPrefixOf octets then octets.drop utf8Mark.length else octets
      (Utf8.decode body).mapError .utf8
  | .utf7, octets => (Utf7.decode octets).mapError .utf7
  | .units width order, octets => (Units.decode width order octets).mapError .units
  | .markedUnits width, octets => decodeMarked width octets
  | .page table, octets =>
    match table.decode? octets with
    | some cs => .ok cs
    | none => .error .absent
  | .multibyte code, octets => (code.decode octets).mapError .sequence
  | .escapes, octets =>
    (Text.Escape.decode true (latin1Chars octets)).mapError fun f => .escape f.reason
  | .codeEscapes, octets => decodeCodes [] (octets.length + 1) (latin1Chars octets)
  | .punycode, octets => decodePunycode octets
  | .hostName, octets => decodeHostName octets
  | .empty, _ => .error (.refused .empty)

end Charset

end SourceConventions
