import SourceConventions.Text.Printable

/-!
# Quoted texts

A text is shown between single quotes, or between double quotes when it holds a single quote and
no double one. Backslashes, the quote and characters that are not printable are escaped.
-/

namespace SourceConventions.Text

def hexDigits (width n : Nat) : List Char :=
  let digits := Nat.toDigits 16 n
  List.replicate (width - digits.length) '0' ++ digits

/-- The escape of a character that is not printable. -/
def codeEscape (c : Char) : List Char :=
  let n := c.toNat
  if n < 0x100 then '\\' :: 'x' :: hexDigits 2 n
  else if n < 0x10000 then '\\' :: 'u' :: hexDigits 4 n
  else '\\' :: 'U' :: hexDigits 8 n

def quotedChar (quote c : Char) : List Char :=
  if c == quote || c == '\\' then ['\\', c]
  else if c == '\t' then ['\\', 't']
  else if c == '\n' then ['\\', 'n']
  else if c == '\r' then ['\\', 'r']
  else if isPrintable c then [c]
  else codeEscape c

def quoteFor (cs : List Char) : Char :=
  if cs.contains '\'' && !cs.contains '"' then '"' else '\''

/-- A text with its quotes. -/
def quoted (cs : List Char) : List Char :=
  let q := quoteFor cs
  q :: cs.flatMap (quotedChar q) ++ [q]

/-- Octets with their quotes; all beyond printable ASCII is escaped. -/
def quotedOctets (octets : List Nat) : List Char :=
  let cs := octets.map Char.ofNat
  let q := quoteFor cs
  'b' :: q :: cs.flatMap (fun c => if c.toNat < 0x7f then quotedChar q c else codeEscape c) ++ [q]

def quotedString (s : String) : String := String.ofList (quoted s.toList)

end SourceConventions.Text
