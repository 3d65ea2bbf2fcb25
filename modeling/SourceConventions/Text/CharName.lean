import SourceConventions.Text.Blank
import SourceConventions.Text.CharName.Alphabet
import SourceConventions.Text.CharName.EastAsian
import SourceConventions.Text.CharName.Further
import SourceConventions.Text.CharName.Historic
import SourceConventions.Text.CharName.Pictogram
import SourceConventions.Text.CharName.Symbol
import SourceConventions.Text.Hangul

/-!
# Names of characters

Most names stand in tables. A table lists names by ascending code points, with an underscore for a
space. A number is the code point of the name behind it; every other name belongs to the code point
after that of the name before it.

A name is written against the one before it. Its first letter counts the words that both have in
front (`a` for none), a small letter behind it those that both have at the end. Words end at a space
or a hyphen.

Names of syllables and of ideographs follow rules instead.
-/

namespace SourceConventions.Text.CharName

/-- The value of an upper case hexadecimal digit. -/
def digit? (c : Char) : Option Nat :=
  if c.isDigit then some (c.toNat - '0'.toNat)
  else if 'A' ≤ c ∧ c ≤ 'F' then some (c.toNat - 'A'.toNat + 10)
  else none

def number? (cs : List Char) : Option Nat :=
  cs.foldl (fun n c => do return (← n) * 16 + (← digit? c)) (some 0)

/-! ### Tables -/

def endsWord (c : Char) : Bool := c == '_' || c == '-'

/-- The words of a name, each with the space or hyphen at its end. -/
def nameWords : List Char → List (List Char)
  | [] => []
  | c :: cs =>
    match nameWords cs with
    | w :: ws => if endsWord c then [c] :: w :: ws else (c :: w) :: ws
    | [] => [[c]]

/-- What a small letter counts. -/
def count (c : Char) : Nat := c.toNat - 'a'.toNat

/-- The words of a written name behind its first letter; `front` counts those that it shares with the
front of the name before it. -/
def wordsOf (before : List (List Char)) (front : Nat) (written : List Char) : List (List Char) :=
  match written.getLast? with
  | some c =>
    if c.isLower then
      before.take front ++ nameWords written.dropLast ++ before.drop (before.length - count c)
    else before.take front ++ nameWords written
  | none => before.take front

/-- The code point of a name in a table, from an entry on; `code` is that of the next name and
`before` the name before it. -/
def findFrom (name : List Char) (code : Nat) (before : List (List Char)) :
    List (List Char) → Option Nat
  | [] => none
  | [] :: entries => findFrom name code before entries
  | (c :: cs) :: entries =>
    if c.isLower then
      let words := wordsOf before (count c) cs
      if words.flatten == name then some code else findFrom name (code + 1) words entries
    else findFrom name ((number? (c :: cs)).getD 0) before entries

def tables : List String := [alphabets, symbols, eastAsian, historic, pictograms, further]

/-- The code point of a name in capitals that stands in a table. -/
def listed? (name : List Char) : Option Nat :=
  if name.contains '_' then none
  else
    let written := name.map fun c => if c == ' ' then '_' else c
    tables.findSome? fun table => findFrom written 0 [] (words table.toList)

/-! ### Names by rule -/

/-- What is behind a start of a text. -/
def behind? (start : String) (cs : List Char) : Option (List Char) :=
  if start.toList.isPrefixOf cs then some (cs.drop start.length) else none

/-- The position in a list of the longest of its parts that a text starts with, and what is behind
it. -/
def longestStart? (parts : List String) (cs : List Char) : Option (Nat × List Char) :=
  parts.zipIdx.foldl (fun best (part, i) =>
    match behind? part cs, best with
    | some rest, some (_, least) => if rest.length < least.length then some (i, rest) else best
    | some rest, none => some (i, rest)
    | none, _ => best) none

def leadingSounds : List String :=
  ["G", "GG", "N", "D", "DD", "R", "M", "B", "BB", "S", "SS", "", "J", "JJ", "C", "K", "T", "P",
    "H"]

def vowelSounds : List String :=
  ["A", "AE", "YA", "YAE", "EO", "E", "YEO", "YE", "O", "WA", "WAE", "OE", "YO", "U", "WEO", "WE",
    "WI", "YU", "EU", "YI", "I"]

def trailingSounds : List String :=
  ["", "G", "GG", "GS", "N", "NJ", "NH", "D", "L", "LG", "LM", "LB", "LS", "LT", "LP", "LH", "M",
    "B", "BS", "S", "SS", "NG", "J", "C", "K", "T", "P", "H"]

/-- The code point of a Korean syllable by the names of its sounds. -/
def syllable? (names : List Char) : Option Nat := do
  let (leading, rest) ← longestStart? leadingSounds names
  let (vowel, rest) ← longestStart? vowelSounds rest
  let (trailing, rest) ← longestStart? trailingSounds rest
  if rest.isEmpty then return (Hangul.Sounds.mk leading vowel trailing).code else none

/-- Code points of ideographs that are named by their number. -/
def ideographs : List (Nat × Nat) := [
  (0x3400, 0x4dbf), (0x4e00, 0x9fff), (0x20000, 0x2a6df), (0x2a700, 0x2b738), (0x2b740, 0x2b81d),
  (0x2b820, 0x2cea1), (0x2ceb0, 0x2ebe0), (0x30000, 0x3134a)]

/-- Other characters that are named by their number, with what stands before it. -/
def numbered : List (String × List (Nat × Nat)) := [
  ("CJK COMPATIBILITY IDEOGRAPH-", [(0xf900, 0xfa6d), (0xfa70, 0xfad9), (0x2f800, 0x2fa1d)]),
  ("KHITAN SMALL SCRIPT CHARACTER-", [(0x18b00, 0x18cd5)]),
  ("NUSHU CHARACTER-", [(0x1b170, 0x1b2fb)])]

def within (ranges : List (Nat × Nat)) (n : Nat) : Bool :=
  ranges.any fun r => r.1 ≤ n && n ≤ r.2

/-- A number in four or five digits. -/
def shortNumber? (cs : List Char) : Option Nat :=
  if cs.length == 4 || cs.length == 5 then number? cs else none

/-- A number without a zero in front. -/
def plainNumber? (cs : List Char) : Option Nat :=
  if cs.head? == some '0' then none else shortNumber? cs

/-- The code point of a name in capitals that holds its number. -/
def numbered? (name : List Char) : Option Nat :=
  numbered.findSome? fun (start, ranges) => do
    let n ← plainNumber? (← behind? start name)
    if within ranges n then return n else none

/-- The code point of the character with a name. Case does not matter but in the names of syllables
and unified ideographs. -/
def code? (name : List Char) : Option Nat :=
  match behind? "HANGUL SYLLABLE " name, behind? "CJK UNIFIED IDEOGRAPH-" name with
  | some sounds, _ => syllable? sounds
  | none, some digits => (shortNumber? digits).filter (within ideographs)
  | none, none =>
    let capitals := name.map Char.toUpper
    (numbered? capitals).orElse fun _ => listed? capitals

end SourceConventions.Text.CharName
