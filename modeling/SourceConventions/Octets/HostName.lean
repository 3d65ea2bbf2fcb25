import SourceConventions.Octets.Punycode
import SourceConventions.Text.Casing
import SourceConventions.Text.Quoted

/-!
# Names of hosts

The labels of a name are separated by points. A label of ASCII stands for itself; any other is
written in Punycode behind the mark `xn--`.
-/

namespace SourceConventions.HostName

inductive Fault where
  | notAscii
  | length
  | marked
  | punycode (fault : Punycode.Fault)
  /-- A label that would be written in another way than it is, and that way. -/
  | otherwise (label written : List Char)
  deriving DecidableEq, Repr

/-- A text of ASCII as octets between quotes. -/
def quotedOctets (cs : List Char) : String :=
  String.ofList (Text.quotedOctets (cs.map Char.toNat))

def Fault.text : Fault → String
  | .notAscii => "ordinal not in range(128)"
  | .length => "label empty or too long"
  | .marked => "Label starts with ACE prefix"
  | .punycode f => s!"decoding with 'punycode' codec failed (UnicodeError: {f.text})"
  | .otherwise label written =>
    s!"('IDNA does not round-trip', {quotedOctets label}, {quotedOctets written})"

def mark : List Char := ['x', 'n', '-', '-']

def isPoint (c : Char) : Bool := c == '.' || c == '。' || c == '．' || c == '｡'

/-- The parts of a text between its points. -/
def labels (isPoint : Char → Bool) : List Char → List (List Char)
  | [] => [[]]
  | c :: cs =>
    if isPoint c then [] :: labels isPoint cs
    else
      match labels isPoint cs with
      | label :: more => (c :: label) :: more
      | [] => [[c]]

/-- The longest label is shorter than this. -/
def tooLong : Nat := 64

def ofLength (label : List Char) : Except Fault (List Char) :=
  if label.isEmpty || tooLong ≤ label.length then .error .length else .ok label

/-- A label as it is written. -/
def writtenLabel (label : List Char) : Except Fault (List Char) :=
  if label.all Punycode.isAscii then ofLength label
  else
    let plain := (Text.lowered (String.ofList label)).toList
    if plain.all Punycode.isAscii then ofLength plain
    else if mark.isPrefixOf plain then .error .marked
    else ofLength (mark ++ Punycode.encode plain)

/-- A label as it is read. -/
def readLabel (label : List Char) : Except Fault (List Char) :=
  if mark.isPrefixOf label then do
    let octets := (label.drop mark.length).map fun c => c.toNat.toUInt8
    let found ← (Punycode.decode octets).mapError .punycode
    let written ← writtenLabel found
    if label.map Char.toLower == written then return found else .error (.otherwise label written)
  else .ok label

def joined (parts : List (List Char)) : List Char := ['.'].intercalate parts

def decode (octets : Octets) : Except Fault (List Char) := do
  if octets.any fun b => 0x80 ≤ b.toNat then .error .notAscii
  else
    let parts := labels (· == '.') (octets.map fun b => Char.ofNat b.toNat)
    return joined (← parts.mapM readLabel)

/-- The octets of all labels but the last one, to which more could come. -/
def encode (cs : List Char) : Except Fault (List Char) := do
  let parts := (labels isPoint cs).dropLast
  return (← parts.mapM writtenLabel).flatMap (· ++ ['.'])

end SourceConventions.HostName
