import SourceConventions.Octets.CodePage.Iso
import SourceConventions.Octets.Japanese
import SourceConventions.Octets.Korean

/-!
# Character sets that escapes switch between

A text begins in ASCII. An escape designates the table that octets are looked up in from there on;
where shifts are used, two tables can be designated at once.
-/

namespace SourceConventions

open Sequence

/-- The sets of tables between which texts switch. -/
inductive Iso2022 where
  | jp
  | jp1
  | jp2
  | jp2004
  | jp3
  | jpExt
  | kr
  deriving DecidableEq, Repr

namespace Iso2022

/-- A table that an escape can designate. -/
inductive Table where
  | ascii
  | latin1
  | greek
  | roman
  | katakana
  | jis0208
  | jis0208Old
  | jis0212
  | jis0213 (edition : Japanese.Edition)
  | jis0213Plane2
  | gb2312
  | ks1001
  deriving DecidableEq, Repr

/-- Whether a character of a table takes two octets. -/
def Table.isDouble : Table → Bool
  | .ascii | .latin1 | .greek | .roman | .katakana => false
  | _ => true

/-- The octet at the end of the escape that designates a table. -/
def Table.mark : Table → Char
  | .ascii => 'B'
  | .latin1 => 'A'
  | .greek => 'F'
  | .roman => 'J'
  | .katakana => 'I'
  | .jis0208 => 'B'
  | .jis0208Old => '@'
  | .jis0212 => 'D'
  | .jis0213 .of2000 => 'O'
  | .jis0213 .of2004 => 'Q'
  | .jis0213Plane2 => 'P'
  | .gb2312 => 'A'
  | .ks1001 => 'C'

/-- The tables beside ASCII, in the order in which a character is looked for. -/
def tables : Iso2022 → List Table
  | .jp => [.jis0208, .roman, .jis0208Old]
  | .jp1 => [.jis0208, .jis0212, .roman, .jis0208Old]
  | .jp2 => [.jis0208, .jis0212, .ks1001, .gb2312, .roman, .jis0208Old, .latin1, .greek]
  | .jp2004 => [.jis0208, .jis0213 .of2004, .jis0213Plane2]
  | .jp3 => [.jis0208, .jis0213 .of2000, .jis0213Plane2]
  | .jpExt => [.jis0208, .jis0212, .roman, .katakana, .jis0208Old]
  | .kr => [.ks1001]

/-- Whether shifts switch between two designated tables. -/
def hasShifts (p : Iso2022) : Bool := p == .kr

/-- Whether single characters can be taken from a third table. -/
def hasThird (p : Iso2022) : Bool := p == .jp2

/-- The edition that a set of tables takes JIS X 0213 from. -/
def edition : Iso2022 → Japanese.Edition
  | .jp2004 => .of2004
  | _ => .of2000

/-- Signs that take the place of others in the first plane of JIS X 0213. -/
def planeSigns : List (Char × Nat) := [('~', 0x2232)]

/-- The characters of a number in a table that switches by designation. -/
def chars? (p : Iso2022) (t : Table) (n : Nat) : Option (List Char) :=
  let one (c : Option Char) : Option (List Char) := c.map ([·])
  match t with
  | .ascii => some [Char.ofNat n]
  | .latin1 | .greek => none
  | .roman => some [Japanese.roman n.toUInt8]
  | .katakana =>
    if Japanese.isHalfWidth (n + 0x80) then some [Japanese.halfWidth (n + 0x80)] else none
  | .jis0208 | .jis0208Old => one (Grid.jis0208.char? n)
  | .jis0212 => one (Grid.jis0212.char? n)
  | .jis0213 e => Japanese.plane1With? planeSigns e n
  | .jis0213Plane2 => one (Grid.jis0213Plane2.char? n)
  | .gb2312 => one (Grid.gb2312.char? n)
  | .ks1001 => one (Grid.ks1001.char? n)

/-- The number of a character in a table. -/
def number? (p : Iso2022) (t : Table) (c : Char) : Option Nat :=
  match t with
  | .ascii | .latin1 | .greek => none
  | .roman => Japanese.romanSigns.lookup c
  | .katakana => (Japanese.halfWidthNumber? c).map (· - 0x80)
  | .jis0208 | .jis0208Old => Grid.jis0208.number? c
  | .jis0212 => Grid.jis0212.number? c
  | .jis0213 e => Japanese.plane1NumberWith? planeSigns e c
  | .jis0213Plane2 => Japanese.plane2Number? p.edition c
  | .gb2312 => Grid.gb2312.number? c
  | .ks1001 => Grid.ks1001.number? c

structure State where
  first : Table
  second : Table
  third : Table
  shifted : Bool
  /-- Whether an escape of another standard is being read. -/
  foreign : Bool
  deriving DecidableEq, Repr

def State.initial : State := ⟨.ascii, .ascii, .ascii, false, false⟩

/-! ### Reading -/

def escape : UInt8 := 0x1b

def shiftIn : UInt8 := 0x0f

def shiftOut : UInt8 := 0x0e

def lineFeed : UInt8 := 0x0a

def octet (c : Char) : UInt8 := c.toNat.toUInt8

/-- Whether an octet ends an escape. -/
def endsEscape (b : UInt8) : Bool := octet '@' ≤ b && b ≤ octet 'Z'

/-- Whether an escape that goes on with an octet designates a table. -/
def startsDesignation (b : UInt8) : Bool := ['(', ')', '$', '.', '&'].any (octet · == b)

def longestEscape : Nat := 16

/-- How long an escape is of which a number of octets have been looked at; none is too long if it
does not end, and what there is of it may be cut off. -/
inductive EscapeLength where
  | octets (n : Nat)
  | endless
  | cutOff

/-- How long an escape is. In some sets of tables the two octets `&@` stand before another
escape. -/
def escapeLength (p : Iso2022) : Nat → Nat → Octets → EscapeLength
  | 0, _, _ => .endless
  | fuel + 1, at_, octets =>
    if longestEscape ≤ at_ then .endless
    else
      match octets.drop at_ with
      | [] => .cutOff
      | b :: rest =>
        if endsEscape b then .octets (at_ + 1)
        else if p != .kr && b == octet '&' && rest.head? == some (octet '@') then
          escapeLength p fuel (at_ + 3) octets
        else escapeLength p fuel (at_ + 1) octets

/-- Where a table is designated to. -/
inductive Place where
  | first
  | second
  | third
  deriving DecidableEq, Repr

/-- The place that an escape names with the octet before its last one. -/
def place? (p : Iso2022) (b : UInt8) : Option Place :=
  if b == octet '(' then some .first
  else if b == octet ')' then some .second
  else if p.hasThird && b == octet '.' then some .third
  else none

/-- What an escape designates: whether the table is of two octets a character, its mark and its
place. -/
def designation? (p : Iso2022) : Octets → Option (Bool × UInt8 × Place)
  | [_, a, mark] =>
    if a == octet '$' then some (true, mark, .first)
    else (place? p a).map fun place => (false, mark, place)
  | [_, a, b, mark] =>
    if a == octet '$' then
      ((place? p b).filter (· != .third)).map fun place => (true, mark, place)
    else none
  | [_, _, _, d, e, mark] =>
    if p != .kr && d == escape && e == octet '$' && mark == octet 'B' then
      some (true, mark, .first)
    else none
  | _ => none

/-- The table that has a mark. -/
def table? (p : Iso2022) (double : Bool) (mark : UInt8) : Option Table :=
  (Table.ascii :: p.tables).find? fun t => t.isDouble == double && octet t.mark == mark

def State.designate (s : State) (t : Table) : Place → State
  | .first => { s with first := t }
  | .second => { s with second := t }
  | .third => { s with third := t }

def openingEscape (p : Iso2022) (s : State) (octets : Octets) : Opening State :=
  match escapeLength p longestEscape 1 octets with
  | .endless => .illegal
  | .cutOff => .incomplete
  | .octets n =>
    match designation? p (octets.take n) with
    | none => .illegal
    | some (double, mark, place) =>
      match table? p double mark with
      | some t => .chars [] n (s.designate t place)
      | none => .illegal

/-- Octets of ISO 8859-7 that the third table has no characters for. -/
def withoutGreek : List Nat := [0xa4, 0xa5, 0xaa]

/-- The character of an octet that is taken from the third table. -/
def thirdChar? (t : Table) (b : UInt8) : Option Char :=
  let n := b.toNat
  if 0x80 ≤ n then none
  else
    match t with
    | .latin1 => some (Char.ofNat (n + 0x80))
    | .greek =>
      if withoutGreek.contains (n + 0x80) then none
      else CodePage.charIn? CodePage.greek.table.toList.toArray (n + 0x80)
    | .ascii => some (Char.ofNat n)
    | _ => none

def opening (p : Iso2022) (s : State) : Octets → Opening State
  | [] => .incomplete
  | a :: rest =>
    if s.foreign then
      .chars [Char.ofNat a.toNat] 1 { s with foreign := !endsEscape a }
    else if a == escape then
      match rest with
      | [] => .incomplete
      | b :: more =>
        if startsDesignation b then openingEscape p s (a :: rest)
        else if p.hasThird && b == octet 'N' then
          match more with
          | [] => .incomplete
          | c :: _ =>
            match thirdChar? s.third c with
            | some char => .chars [char] 3 s
            | none => .illegal
        else .chars (plain a) 1 { s with foreign := true }
    else if p.hasShifts && a == shiftIn then .chars [] 1 { s with shifted := false }
    else if p.hasShifts && a == shiftOut then .chars [] 1 { s with shifted := true }
    else if a == lineFeed then .chars ['\n'] 1 { s with shifted := false }
    else if a.toNat < 0x20 then .chars (plain a) 1 s
    else if !isPlain a then .illegal
    else
      let t := if s.shifted then s.second else s.first
      if t.isDouble then
        match rest with
        | [] => .incomplete
        | b :: _ =>
          match chars? p t (a.toNat * 256 + b.toNat) with
          | some cs => .chars cs 2 s
          | none => .illegal
      else
        match chars? p t a.toNat with
        | some cs => .chars cs 1 s
        | none => .illegal

/-! ### Writing -/

/-- The escape that designates a table. -/
def designation (t : Table) (place : Char) : Octets :=
  if !t.isDouble then [escape, octet place, octet t.mark]
  else if t = .jis0208 then [escape, octet '$', octet t.mark]
  else [escape, octet '$', octet place, octet t.mark]

/-- The octets that make a table the one in use, and the state behind them. -/
def switchTo (p : Iso2022) (s : State) (t : Table) : Octets × State :=
  if p.hasShifts && t != .ascii then
    let escapes := if s.second == t then [] else designation t ')'
    let shift := if s.shifted then [] else [shiftOut]
    (escapes ++ shift, { s with second := t, shifted := true })
  else
    let escapes := if s.first == t then [] else designation t '('
    let shift := if s.shifted then [shiftIn] else []
    (escapes ++ shift, { s with first := t, shifted := false })

def startIn (p : Iso2022) (s : State) (t : Table) (n count : Nat) : Start State :=
  let (before, next) := switchTo p s t
  .octets (before ++ octetsOf n) count next

/-- The number of two characters that are one in JIS X 0213. -/
def composedNumber? (p : Iso2022) (c d : Char) : Option (Table × Nat) :=
  match p.tables.find? fun t => t == .jis0213 p.edition with
  | none => none
  | some t => (Japanese.composed.find? fun (_, cs) => cs == [c, d]).map fun (n, _) => (t, n)

/-- Whether a character can be the first of two that are one. -/
def opensPair (p : Iso2022) (c : Char) : Bool :=
  p.tables.contains (.jis0213 p.edition)
    && Japanese.composed.any fun (_, cs) => cs.head? == some c

def startSingle (p : Iso2022) (s : State) (c : Char) : Start State :=
  match p.tables.findSome? fun t => (number? p t c).map (t, ·) with
  | some (t, n) => startIn p s t n 1
  | none => .lacking

def start (p : Iso2022) (s : State) : List Char → Start State
  | [] => .octets [] 0 s
  | c :: rest =>
    if c.toNat < 0x80 then
      let (before, next) := switchTo p s .ascii
      .octets (before ++ [c.toNat.toUInt8]) 1 next
    else if opensPair p c then
      match rest with
      | [] => .waiting
      | d :: _ =>
        match composedNumber? p c d with
        | some (t, n) => startIn p s t n 2
        | none => startSingle p s c
    else startSingle p s c

end Iso2022

end SourceConventions
