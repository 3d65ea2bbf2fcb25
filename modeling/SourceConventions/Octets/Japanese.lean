import SourceConventions.Octets.Chinese
import SourceConventions.Octets.Grid.Jis0208
import SourceConventions.Octets.Grid.JisExtension

/-!
# Japanese character sets

JIS X 0208 and JIS X 0213 number characters by two octets. EUC shifts these beyond ASCII, Shift JIS
folds their rows to make room for half-width characters of one octet.
-/

namespace SourceConventions.Japanese

open Sequence

/-- The editions of JIS X 0213. -/
inductive Edition where
  | of2000
  | of2004
  deriving DecidableEq, Repr

/-! ### Planes -/

/-- Characters of the first plane of JIS X 0213 that Unicode composes of two. -/
def composed : List (Nat × List Char) := [
  (0x2477, ['か', '\u309a']), (0x2478, ['き', '\u309a']), (0x2479, ['く', '\u309a']),
  (0x247a, ['け', '\u309a']), (0x247b, ['こ', '\u309a']), (0x2577, ['カ', '\u309a']),
  (0x2578, ['キ', '\u309a']), (0x2579, ['ク', '\u309a']), (0x257a, ['ケ', '\u309a']),
  (0x257b, ['コ', '\u309a']), (0x257c, ['セ', '\u309a']), (0x257d, ['ツ', '\u309a']),
  (0x257e, ['ト', '\u309a']), (0x2678, ['ㇷ', '\u309a']), (0x2b44, ['æ', '\u0300']),
  (0x2b48, ['ɔ', '\u0300']), (0x2b49, ['ɔ', '\u0301']), (0x2b4a, ['ʌ', '\u0300']),
  (0x2b4b, ['ʌ', '\u0301']), (0x2b4c, ['ə', '\u0300']), (0x2b4d, ['ə', '\u0301']),
  (0x2b4e, ['ɚ', '\u0300']), (0x2b4f, ['ɚ', '\u0301']), (0x2b65, ['˩', '˥']),
  (0x2b66, ['˥', '˩'])]

/-- Numbers of the first plane that the later edition has taken into use. -/
def added : List Nat :=
  [0x2e21, 0x2f7e, 0x4f54, 0x4f7e, 0x7427, 0x7e7a, 0x7e7b, 0x7e7c, 0x7e7d, 0x7e7e]

/-- The one character that differs between the editions. -/
def changed : Nat := 0x7d3b

def single? (e : Edition) (n : Nat) : Option Char :=
  if e = .of2000 ∧ added.contains n then none
  else Chinese.firstOf [Grid.jis0208.char? n, Grid.jis0213.char? n]

def plane1? (e : Edition) (n : Nat) : Option (List Char) :=
  match composed.lookup n with
  | some cs => some cs
  | none => (single? e n).map ([·])

def plane2? (e : Edition) (n : Nat) : Option Char :=
  if e = .of2000 ∧ n = changed then some '鬝' else Grid.jis0213Plane2.char? n

/-- A number in a grid, if the character there is the one sought. -/
def numberOf? (char? : Nat → Option Char) (number? : Option Nat) (c : Char) : Option Nat :=
  number?.filter fun n => char? n == some c

def plane1Number? (e : Edition) (c : Char) : Option Nat :=
  match Grid.jis0208.number? c, Grid.jis0213.number? c with
  | some n, _ => some n
  | none, found => numberOf? (single? e) found c

def plane2Number? (e : Edition) (c : Char) : Option Nat :=
  let found := (Grid.jis0213Plane2.number? c).getD changed
  numberOf? (plane2? e) (some found) c

/-! ### Half-width characters -/

/-- How far half-width characters stand behind their octets. -/
def halfWidthShift : Nat := 0xfec0

def isHalfWidth (n : Nat) : Bool := 0xa1 ≤ n && n ≤ 0xdf

def halfWidth (n : Nat) : Char := Char.ofNat (n + halfWidthShift)

/-- The octet of a half-width character. -/
def halfWidthNumber? (c : Char) : Option Nat :=
  let n := c.toNat - halfWidthShift
  if halfWidthShift ≤ c.toNat && isHalfWidth n then some n else none

/-- The two characters that stand where ASCII has `\` and `~`, with the octets of those. -/
def romanSigns : List (Char × Nat) := [('¥', 0x5c), ('‾', 0x7e)]

/-- The character of an octet below `0x80` where these replace ASCII. -/
def roman (b : UInt8) : Char :=
  match romanSigns.find? fun (_, n) => n == b.toNat with
  | some (c, _) => c
  | none => Char.ofNat b.toNat

/-! ### EUC -/

/-- What octets beyond ASCII are larger by than those of a table of ASCII. -/
def shift : Nat := 0x8080

/-- What octets open with; the planes are those of two and of three octets. -/
def openingEuc (two : Nat → Option (List Char)) (three : Nat → Option Char) :
    Octets → Opening Unit
  | [] => .incomplete
  | a :: rest =>
    if isPlain a then .chars (plain a) 1 ()
    else
      match rest with
      | [] => .incomplete
      | b :: rest =>
        if a == 0x8e then
          if isHalfWidth b.toNat then .chars [halfWidth b.toNat] 2 () else .illegal
        else if a == 0x8f then
          match rest with
          | [] => .incomplete
          | c :: _ =>
            match three (b.toNat * 256 + c.toNat - shift) with
            | some char => .chars [char] 3 ()
            | none => .illegal
        else
          match two (a.toNat * 256 + b.toNat - shift) with
          | some cs => .chars cs 2 ()
          | none => .illegal

/-- The octets of a character as a number, by its numbers in the planes. -/
def eucNumber? (two three : Char → Option Nat) (c : Char) : Option Nat :=
  match halfWidthNumber? c, two c, three c with
  | some n, _, _ => some (0x8e00 + n)
  | none, some n, _ => some (n + shift)
  | none, none, some n => some (0x8f0000 + n + shift)
  | none, none, none => none

def eucChars? (n : Nat) : Option (List Char) := (Grid.jis0208.char? n).map ([·])

def eucJpNumber? (c : Char) : Option Nat :=
  match romanSigns.lookup c with
  | some n => some n
  | none => eucNumber? Grid.jis0208.number? Grid.jis0212.number? c

def eucJisThree? (e : Edition) (n : Nat) : Option Char :=
  Chinese.firstOf [plane2? e n, Grid.jis0212.char? n]

/-- Whether an edition has a character in one of its planes. -/
def Edition.has (e : Edition) (c : Char) : Bool :=
  (plane1Number? e c).isSome || (plane2Number? e c).isSome

/-- A character that only the later edition has is not looked for in JIS X 0212. -/
def eucJisNumber? (e : Edition) (c : Char) : Option Nat :=
  let three := match plane2Number? e c with
    | some n => some n
    | none => if Edition.of2004.has c then none else Grid.jis0212.number? c
  eucNumber? (plane1Number? e) (fun _ => three) c

/-! ### Shift JIS -/

/-- The position of the second octet among those that are used. -/
def column? (b : Nat) : Option Nat :=
  if 0x40 ≤ b ∧ b ≤ 0x7e then some (b - 0x40)
  else if 0x80 ≤ b ∧ b ≤ 0xfc then some (b - 0x41)
  else none

/-- The position of a first octet of two. -/
def lead? (a : Nat) : Option Nat :=
  if 0x81 ≤ a ∧ a ≤ 0x9f then some (a - 0x81)
  else if 0xe0 ≤ a ∧ a ≤ 0xfc then some (a - 0xc1)
  else none

/-- The row and the column of two octets, of which two rows share a first one. -/
def cell? (n : Nat) : Option (Nat × Nat) := do
  let lead ← lead? (n / 256)
  let column ← column? (n % 256)
  return (2 * lead + column / 94, column % 94)

/-- The number of two octets in a grid of 94 rows. -/
def foldedNumber? (n : Nat) : Option Nat :=
  (cell? n).map fun (row, column) => (row + 0x21) * 256 + column + 0x21

def shiftJis? (n : Nat) : Option Char := (foldedNumber? n).bind Grid.jis0208.char?

/-- The last octet that can be the first of two where rows of JIS X 0208 are folded. -/
def lastLead : Nat := 0xea

/-- The same for JIS X 0213. -/
def lastLead2004 : Nat := 0xfc

/-- What octets open with where some octets beyond ASCII are characters of their own. -/
def openingShifted (last : Nat) (one : UInt8 → Option Char) (two : Nat → Option (List Char)) :
    Octets → Opening Unit
  | [] => .incomplete
  | a :: rest =>
    match one a, (lead? a.toNat).filter fun _ => a.toNat ≤ last, rest with
    | some c, _, _ => .chars [c] 1 ()
    | none, none, _ => .illegal
    | none, some _, [] => .incomplete
    | none, some _, b :: _ =>
      match two (a.toNat * 256 + b.toNat) with
      | some cs => .chars cs 2 ()
      | none => .illegal

def shiftJisOne? (b : UInt8) : Option Char :=
  if isPlain b then some (Char.ofNat b.toNat)
  else if isHalfWidth b.toNat then some (halfWidth b.toNat)
  else none

/-- The number of the two octets of a row and a column. -/
def folded (row column : Nat) : Nat :=
  let lead := row / 2
  let position := row % 2 * 94 + column
  (if lead < 0x1f then lead + 0x81 else lead + 0xc1) * 256
    + (if position < 0x3f then position + 0x40 else position + 0x41)

/-- The number of the two octets of a number in a grid of 94 rows. -/
def foldedOf (n : Nat) : Nat := folded (n / 256 - 0x21) (n % 256 - 0x21)

def shiftJisNumber? (c : Char) : Option Nat :=
  match romanSigns.lookup c, halfWidthNumber? c with
  | some n, _ => some n
  | none, some n => some n
  | none, none => (Grid.jis0208.number? c).map foldedOf

/-! ### Code page 932 -/

/-- Octets that are characters for private use. -/
def privateOne? (n : Nat) : Option Char :=
  if n = 0xa0 then some '\uf8f0'
  else if 0xfd ≤ n then some (Char.ofNat (n - 0xfd + 0xf8f1))
  else none

def cp932One? (b : UInt8) : Option Char :=
  if b == 0x80 then some '\u0080' else (shiftJisOne? b).orElse fun _ => privateOne? b.toNat

/-- The character for private use of two octets. -/
def privateTwo? (n : Nat) : Option Char := do
  let column ← column? (n % 256)
  let row := n / 256
  if 0xf0 ≤ row ∧ row ≤ 0xf9 then return Char.ofNat (0xe000 + (row - 0xf0) * 188 + column)
  else none

def cp932? (n : Nat) : Option Char :=
  Chinese.firstOf [Grid.cp932.char? n, shiftJis? n, privateTwo? n]

/-- What octets open with; every octet that is no character is the first of two. -/
def openingCp932 : Octets → Opening Unit
  | [] => .incomplete
  | a :: rest =>
    match cp932One? a, rest with
    | some c, _ => .chars [c] 1 ()
    | none, [] => .incomplete
    | none, b :: _ =>
      match cp932? (a.toNat * 256 + b.toNat) with
      | some c => .chars [c] 2 ()
      | none => .illegal

/-- The octets of a character as a number; `known` holds the pairs of the code page. -/
def cp932Number? (known : Inverse) (c : Char) : Option Nat :=
  let one := (List.range' 0x80 0x80).find? fun n => cp932One? n.toUInt8 == some c
  match one, known[c]? with
  | some n, _ => some n
  | none, some n => some n
  | none, none => (Grid.jis0208.number? c).map foldedOf

/-! ### Shift JIS of JIS X 0213 -/

/-- The signs of ASCII that are no octets of their own, with their numbers in the first plane. -/
def asciiSigns : List (Char × Nat) := [('\\', 0x2140), ('~', 0x2232)]

/-- The first plane with some signs put in the place of others. -/
def plane1With? (signs : List (Char × Nat)) (e : Edition) (n : Nat) : Option (List Char) :=
  match signs.find? fun (_, m) => m == n with
  | some (c, _) => some [c]
  | none => plane1? e n

/-- The numbers of characters in the first plane with some signs put in the place of others. -/
def plane1NumberWith? (signs : List (Char × Nat)) (e : Edition) (c : Char) : Option Nat :=
  match signs.lookup c with
  | some n => some n
  | none => (plane1Number? e c).filter fun n => signs.all fun (_, m) => m != n

def rowsOfPlane1 : Nat := 94

/-- The rows of the second plane in their order behind those of the first one. -/
def rowsOfPlane2 : List Nat :=
  [0x21, 0x28, 0x23, 0x24, 0x25, 0x2c, 0x2d, 0x2e, 0x2f] ++ List.range' 0x6e 17

def shiftJis2004? (e : Edition) (n : Nat) : Option (List Char) := do
  let (row, column) ← cell? n
  if row < rowsOfPlane1 then plane1With? asciiSigns e ((row + 0x21) * 256 + column + 0x21)
  else
    let number := (← rowsOfPlane2[row - rowsOfPlane1]?) * 256 + column + 0x21
    return [← plane2? e number]

def shiftJis2004One? (b : UInt8) : Option Char :=
  if isPlain b then some (roman b)
  else if isHalfWidth b.toNat then some (halfWidth b.toNat)
  else none

def shiftJis2004Number? (e : Edition) (c : Char) : Option Nat :=
  match romanSigns.lookup c, halfWidthNumber? c with
  | some n, _ => some n
  | none, some n => some n
  | none, none =>
    match plane1NumberWith? asciiSigns e c, plane2Number? e c with
    | some n, _ => some (foldedOf n)
    | none, some n =>
      (rowsOfPlane2.idxOf? (n / 256)).map fun i => folded (i + rowsOfPlane1) (n % 256 - 0x21)
    | none, none => none

/-- How characters begin to be written. -/
def startShiftJis2004 (e : Edition) : List Char → Start Unit
  | [] => .octets [] 0 ()
  | c :: rest =>
    match asciiSigns.lookup c with
    | some n => .octets (octetsOf (foldedOf n)) 1 ()
    | none =>
      Chinese.startComposed (composed.map fun (n, cs) => (foldedOf n, cs))
        (shiftJis2004Number? e) (c :: rest)

def startEucJis (e : Edition) : List Char → Start Unit :=
  Chinese.startComposed (composed.map fun (n, cs) => (n + shift, cs)) (eucJisNumber? e)

end SourceConventions.Japanese
