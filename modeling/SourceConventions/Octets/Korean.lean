import SourceConventions.Octets.Grid.Ks1001
import SourceConventions.Octets.Inverse
import SourceConventions.Octets.Sequence
import SourceConventions.Text.Hangul

/-!
# Korean character sets

KS X 1001 has two octets for a character, but not for every syllable. A syllable that it lacks can
be made up of its letters, is one of the extension of Microsoft, or has its sounds in the bits of
its octets as all syllables have in the Johab code.
-/

namespace SourceConventions.Korean

open Sequence Text

/-- What octets beyond ASCII are larger by than those of a table of ASCII. -/
def shift : Nat := 0x8080

/-- The number of the character that stands for a missing letter. -/
def filler : Nat := 0x2454

def ks1001? (n : Nat) : Option Char := Grid.ks1001.char? (n - shift)

/-! ### Syllables made up of letters -/

/-- The letter of an octet that has its row before it. -/
def letter? (b : UInt8) : Option Char := ks1001? (0xa400 + b.toNat)

/-- The syllable of three letters; that at its end may be missing. -/
def madeUp? (leading vowel trailing : UInt8) : Option Char := do
  let l ← Hangul.leadingLetters.idxOf? (← letter? leading)
  let v ← Hangul.vowelLetters.idxOf? (← letter? vowel)
  let t ← if trailing == 0xd4 then some 0
    else (Hangul.trailingLetters.idxOf? (← letter? trailing)).map (· + 1)
  return Char.ofNat (Hangul.Sounds.mk l v t).code

def openingEuc : Octets → Opening Unit
  | 0xa4 :: 0xd4 :: rest =>
    match rest with
    | a :: l :: b :: v :: c :: t :: _ =>
      if a == 0xa4 && b == 0xa4 && c == 0xa4 then
        match madeUp? l v t with
        | some syllable => .chars [syllable] 8 ()
        | none => .illegal
      else .illegal
    | _ => .incomplete
  | octets => openingOfPairs (fun n => (ks1001? n).map ([·])) octets

/-- The octets of a letter. -/
def letterOctets (c : Char) : Octets := octetsOf ((Grid.ks1001.number? c).getD filler + shift)

/-- The octets of the letters of a syllable, behind those for a missing letter. -/
def madeUpOctets (s : Hangul.Sounds) : Octets :=
  let letter (letters : List Char) (i : Nat) : Octets :=
    match letters[i]? with
    | some c => letterOctets c
    | none => octetsOf (filler + shift)
  octetsOf (filler + shift) ++ letter Hangul.leadingLetters s.leading
    ++ letter Hangul.vowelLetters s.vowel
    ++ (if s.trailing = 0 then octetsOf (filler + shift)
      else letter Hangul.trailingLetters (s.trailing - 1))

def startEuc : List Char → Start Unit
  | [] => .octets [] 0 ()
  | c :: _ =>
    if c.toNat < 0x80 then .octets [c.toNat.toUInt8] 1 ()
    else
      match Grid.ks1001.number? c, Hangul.sounds? c with
      | some n, _ => .octets (octetsOf (n + shift)) 1 ()
      | none, some s => .octets (madeUpOctets s) 1 ()
      | none, none => .lacking

/-! ### The extension with all syllables -/

/-- The syllables that KS X 1001 lacks. -/
def beyondKs1001 : Array Char :=
  let known := Grid.ks1001.cells.foldl (fun known c => known.insert c ()) (∅ : CharMap Unit)
  (Hangul.syllables.filter (!known.contains ·)).toArray

/-- The position of the second octet among those that are used. -/
def column? (b : Nat) : Option Nat :=
  if 0x41 ≤ b ∧ b ≤ 0x5a then some (b - 0x41)
  else if 0x61 ≤ b ∧ b ≤ 0x7a then some (b - 0x61 + 26)
  else if 0x81 ≤ b ∧ b ≤ 0xfe then some (b - 0x81 + 52)
  else none

/-- How many second octets there are, and how many before those of KS X 1001. -/
def columns : Nat := 178

def frontColumns : Nat := 84

/-- The position among the syllables that KS X 1001 lacks. -/
def syllableIndex? (n : Nat) : Option Nat :=
  let row := n / 256
  match column? (n % 256) with
  | none => none
  | some column =>
    if 0x81 ≤ row ∧ row ≤ 0xa0 then some ((row - 0x81) * columns + column)
    else if 0xa1 ≤ row ∧ column < frontColumns then
      some (32 * columns + (row - 0xa1) * frontColumns + column)
    else none

def cp949? (n : Nat) : Option Char :=
  match (syllableIndex? n).bind (beyondKs1001[·]?) with
  | some c => some c
  | none => ks1001? n

/-! ### The code of sounds -/

/-- What five bits say about a letter of a syllable. -/
inductive Slot where
  | unused
  | empty
  | letter (index : Nat)
  deriving DecidableEq, Repr

def leadingSlot (bits : Nat) : Slot :=
  if bits = 1 then .empty
  else if 2 ≤ bits ∧ bits ≤ 20 then .letter (bits - 2)
  else .unused

/-- Vowels stand at six out of eight places each. -/
def vowelSlot (bits : Nat) : Slot :=
  if bits = 2 then .empty
  else if bits % 8 < 2 ∨ 29 < bits then .unused
  else .letter (bits / 8 * 6 + bits % 8 - 3)

def trailingSlot (bits : Nat) : Slot :=
  if bits = 1 then .empty
  else if 2 ≤ bits ∧ bits ≤ 17 then .letter (bits - 2)
  else if 19 ≤ bits ∧ bits ≤ 29 then .letter (bits - 3)
  else .unused

/-- The syllable or the letter that three times five bits make. -/
def soundsChar? (n : Nat) : Option Char :=
  match leadingSlot (n / 1024 % 32), vowelSlot (n / 32 % 32), trailingSlot (n % 32) with
  | .empty, .empty, .empty => some '　'
  | .empty, .empty, .letter t => Hangul.trailingLetters[t]?
  | .empty, .letter v, .empty => Hangul.vowelLetters[v]?
  | .letter l, .empty, .empty => Hangul.leadingLetters[l]?
  | .letter l, .letter v, .empty => some (Char.ofNat (Hangul.Sounds.mk l v 0).code)
  | .letter l, .letter v, .letter t => some (Char.ofNat (Hangul.Sounds.mk l v (t + 1)).code)
  | _, _, _ => none

/-- The number in KS X 1001 of a character that is no syllable. -/
def signNumber? (n : Nat) : Option Nat :=
  let a := n / 256
  let b := n % 256
  if a < 0xd9 ∨ a = 0xdf ∨ 0xf9 < a ∨ b < 0x31 ∨ (0x80 ≤ b ∧ b < 0x91) ∨ b % 128 = 0x7f
      ∨ (a = 0xda ∧ 0xa1 ≤ b ∧ b ≤ 0xd3) then none
  else
    let row := if a < 0xe0 then 2 * (a - 0xd9) else 2 * a - 0x197
    let column := if b < 0x91 then b - 0x31 else b - 0x43
    some ((row + column / 94 + 0x21) * 256 + column % 94 + 0x21)

def johab? (n : Nat) : Option Char :=
  if n / 256 < 0xd8 then soundsChar? n else (signNumber? n).bind Grid.ks1001.char?

end SourceConventions.Korean
