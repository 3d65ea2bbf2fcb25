import SourceConventions.Octets.Grid.Big5
import SourceConventions.Octets.Grid.Gb2312
import SourceConventions.Octets.Grid.HongKong
import SourceConventions.Octets.Inverse
import SourceConventions.Octets.Sequence

/-!
# Chinese character sets

GB 2312 has two octets for every Chinese character, GBK adds the other ideographs in the order of
Unicode, and GB 18030 reaches the rest of Unicode with four octets. Big5 has extensions of its own.
-/

namespace SourceConventions.Chinese

open Sequence

/-- The numbers of two octets the first of which is beyond ASCII. -/
def pairs : List Nat := List.range' 0x8000 0x8000

/-! ### GB 2312 and its extensions -/

/-- What octets beyond ASCII are larger by than those of a table of ASCII. -/
def shift : Nat := 0x8080

def gb2312? (n : Nat) : Option Char := Grid.gb2312.char? (n - shift)

/-- Ideographs that were taken over for other sets. -/
def compatible : List Char :=
  [0xf92c, 0xf979, 0xf995, 0xf9e7, 0xf9f1, 0xfa0c, 0xfa0d, 0xfa0e, 0xfa0f, 0xfa11, 0xfa13, 0xfa14,
    0xfa18, 0xfa1f, 0xfa20, 0xfa21, 0xfa23, 0xfa24, 0xfa27, 0xfa28, 0xfa29].map Char.ofNat

/-- The ideographs that GB 2312 lacks: those of the first block of Unicode, and a few others. -/
def beyondGb2312 : Array Char :=
  let known := Grid.gb2312.cells.foldl (fun known c => known.insert c ()) (∅ : CharMap Unit)
  let block := (List.range' 0x4e00 (0x9fa6 - 0x4e00)).map Char.ofNat
  (block.filter (!known.contains ·) ++ compatible).toArray

/-- The position of the second octet among those that are used. -/
def column? (b : Nat) : Option Nat :=
  if 0x40 ≤ b ∧ b ≤ 0x7e then some (b - 0x40)
  else if 0x80 ≤ b ∧ b ≤ 0xfe then some (b - 0x41)
  else none

/-- How many second octets there are, and how many before those of GB 2312. -/
def columns : Nat := 190

def frontColumns : Nat := 96

/-- The position among the ideographs that GB 2312 lacks. -/
def ideographIndex? (n : Nat) : Option Nat :=
  let row := n / 256
  match column? (n % 256) with
  | none => none
  | some column =>
    if 0x81 ≤ row ∧ row ≤ 0xa0 then some ((row - 0x81) * columns + column)
    else if 0xaa ≤ row ∧ row ≤ 0xfe ∧ column < frontColumns then
      some (32 * columns + (row - 0xaa) * frontColumns + column)
    else none

/-- The first of several characters that there is. -/
def firstOf (found : List (Option Char)) : Option Char := found.findSome? id

def gbk? (n : Nat) : Option Char :=
  firstOf [(ideographIndex? n).bind (beyondGb2312[·]?), Grid.gbkSigns.char? n, gb2312? n]

/-- Numbers within the rows of GBK that it leaves free. -/
def freeRuns : List (Nat × Nat) := [
  (0xa2ab, 0xa2b0), (0xa2e3, 0xa2e4), (0xa2ef, 0xa2f0), (0xa2fd, 0xa2fe), (0xa4f4, 0xa4fe),
  (0xa5f7, 0xa5fe), (0xa6b9, 0xa6c0), (0xa6d9, 0xa6df), (0xa6ec, 0xa6ed), (0xa6f3, 0xa6f3),
  (0xa6f6, 0xa6fe), (0xa7c2, 0xa7d0), (0xa7f2, 0xa7fe), (0xa896, 0xa8a0), (0xa8bc, 0xa8bc),
  (0xa8bf, 0xa8bf), (0xa8c1, 0xa8c4), (0xa8ea, 0xa8fe), (0xa958, 0xa958), (0xa95b, 0xa95b),
  (0xa95d, 0xa95f), (0xa989, 0xa995), (0xa997, 0xa9a3), (0xa9f0, 0xa9fe), (0xd7fa, 0xd7fe),
  (0xfe50, 0xfe7e), (0xfe80, 0xfea0)]

/-- The position of a number among those of some runs. -/
def indexIn? (n : Nat) : List (Nat × Nat) → Option Nat
  | [] => none
  | (first, last) :: runs =>
    if first ≤ n ∧ n ≤ last then some (n - first)
    else (indexIn? n runs).map (· + (last + 1 - first))

/-- The code point for private use that a number has. -/
def privateCode? (n : Nat) : Option Nat :=
  let row := n / 256
  let column := n % 256 - 0xa1
  let inBack : Bool := 0xa1 ≤ n % 256 && n % 256 ≤ 0xfe
  if 0xaa ≤ row ∧ row ≤ 0xaf ∧ inBack then some (0xe000 + (row - 0xaa) * 94 + column)
  else if 0xf8 ≤ row ∧ row ≤ 0xfe ∧ inBack then some (0xe234 + (row - 0xf8) * 94 + column)
  else if 0xa1 ≤ row ∧ row ≤ 0xa7 then
    match (column? (n % 256)).filter (· < frontColumns) with
    | some column => some (0xe4c6 + (row - 0xa1) * frontColumns + column)
    | none => (indexIn? n freeRuns).map (· + 0xe766)
  else (indexIn? n freeRuns).map (· + 0xe766)

def gb18030Pair? (n : Nat) : Option Char :=
  firstOf [gbk? n, Grid.gb18030Signs.char? n, (privateCode? n).map Char.ofNat]

/-- The other characters of the basic plane beyond ASCII. -/
def fourfold : Array Char :=
  let known := Inverse.ofNumbers .first gb18030Pair? pairs
  let plane := List.range' 0x80 (0xd800 - 0x80) ++ List.range' 0xe000 0x2000
  ((plane.map Char.ofNat).filter (!known.contains ·)).toArray

/-- The number of four octets, the second and fourth of which are digits. -/
def fourNumber? (a b c d : Nat) : Option Nat :=
  let isDigit (n : Nat) : Bool := 0x30 ≤ n && n ≤ 0x39
  let isRow (n : Nat) : Bool := 0x81 ≤ n && n ≤ 0xfe
  if isRow a && isDigit b && isRow c && isDigit d then
    some (((a - 0x81) * 10 + (b - 0x30)) * 1260 + (c - 0x81) * 10 + (d - 0x30))
  else none

/-- The number from which on the characters beyond the basic plane are numbered. -/
def firstBeyond : Nat := 15 * 12600

/-- The character of the number of four octets. -/
def fourChar? (n : Nat) : Option Char :=
  if n < firstBeyond then fourfold[n]?
  else if n - firstBeyond < 0x100000 then some (Char.ofNat (n - firstBeyond + 0x10000))
  else none

def openingGb18030 : Octets → Opening Unit
  | [] => .incomplete
  | a :: rest =>
    if isPlain a then .chars (plain a) 1 ()
    else
      match rest with
      | [] => .incomplete
      | b :: rest =>
        if 0x30 ≤ b.toNat ∧ b.toNat ≤ 0x39 then
          match rest with
          | c :: d :: _ =>
            match (fourNumber? a.toNat b.toNat c.toNat d.toNat).bind fourChar? with
            | some char => .chars [char] 4 ()
            | none => .illegal
          | _ => .incomplete
        else
          match gb18030Pair? (a.toNat * 256 + b.toNat) with
          | some char => .chars [char] 2 ()
          | none => .illegal

/-- The four octets of a number. -/
def fourOctets (n : Nat) : Nat :=
  let d := n % 10 + 0x30
  let c := n / 10 % 126 + 0x81
  let b := n / 1260 % 10 + 0x30
  let a := n / 12600 + 0x81
  ((a * 256 + b) * 256 + c) * 256 + d

/-- The octets of a character, as a number. -/
def gb18030Number? (pairNumbers : Inverse) (c : Char) : Option Nat :=
  match pairNumbers[c]? with
  | some n => some n
  | none =>
    if 0x10000 ≤ c.toNat then some (fourOctets (c.toNat - 0x10000 + firstBeyond))
    else (fourfold.findIdx? (· == c)).map fourOctets

/-! ### GB 2312 within ASCII

The mark `~` switches between ASCII and pairs of octets. -/

/-- What octets open with, where the state is whether pairs are read. -/
def openingHz (inPairs : Bool) : Octets → Opening Bool
  | [] => .incomplete
  | a :: rest =>
    if a == 0x7e then
      match rest, inPairs with
      | [], _ => .incomplete
      | b :: _, false =>
        if b == 0x7e then .chars ['~'] 2 false
        else if b == 0x7b then .chars [] 2 true
        else if b == 0x0a then .chars [] 2 false
        else .illegal
      | b :: _, true => if b == 0x7d then .chars [] 2 false else .illegal
    else if !isPlain a then .illegal
    else if !inPairs then .chars (plain a) 1 false
    else
      match rest with
      | [] => .incomplete
      | b :: _ =>
        match Grid.gb2312.char? (a.toNat * 256 + b.toNat) with
        | some c => .chars [c] 2 true
        | none => .illegal

def startHz (inPairs : Bool) : List Char → Start Bool
  | [] => .octets [] 0 inPairs
  | c :: _ =>
    if c.toNat < 0x80 then
      let close : Octets := if inPairs then [0x7e, 0x7d] else []
      .octets (close ++ List.replicate (if c == '~' then 2 else 1) c.toNat.toUInt8) 1 false
    else
      match Grid.gb2312.number? c with
      | some n =>
        let mark : Octets := if inPairs then [] else [0x7e, 0x7b]
        .octets (mark ++ octetsOf n) 1 true
      | none => .lacking

/-! ### Big5 and its extensions -/

def big5? (n : Nat) : Option Char := Grid.big5.char? n

/-- Two numbers of characters that have another one. -/
def repeated : List Nat := [0xa2cc, 0xa2ce]

def cp950? (n : Nat) : Option Char := firstOf [Grid.cp950.char? n, big5? n]

/-- Characters of the Hong Kong supplement that Unicode composes of two. -/
def composed : List (Nat × List Char) := [
  (0x8862, ['Ê', '\u0304']), (0x8864, ['Ê', '\u030c']), (0x88a3, ['ê', '\u0304']),
  (0x88a5, ['ê', '\u030c'])]

/-- Numbers of Big5 that the Hong Kong supplement leaves free. -/
def dropped : List Nat := [0xc6cf, 0xc6d3, 0xc6d5, 0xc6d7, 0xc6de, 0xc6df]

def hongKong? (n : Nat) : Option Char :=
  firstOf [Grid.hongKong.char? n, if dropped.contains n then none else big5? n]

def hongKongChars? (n : Nat) : Option (List Char) :=
  match composed.lookup n with
  | some cs => some cs
  | none => (hongKong? n).map ([·])

/-- How characters begin to be written where some are composed of two. -/
def startComposed (composed : List (Nat × List Char)) (number? : Char → Option Nat) :
    List Char → Start Unit
  | [] => .octets [] 0 ()
  | c :: rest =>
    if composed.any fun (_, cs) => cs.head? == some c then
      match rest with
      | [] => .waiting
      | d :: _ =>
        match composed.find? fun (_, cs) => cs == [c, d] with
        | some (n, _) => .octets (octetsOf n) 2 ()
        | none => startOfNumbers number? [c]
    else startOfNumbers number? [c]

end SourceConventions.Chinese
