import SourceConventions.Octets.Iso2022

/-!
# Character sets of several octets a character
-/

namespace SourceConventions

open Sequence

inductive Multibyte where
  | big5
  | cp950
  | hongKong
  | gb2312
  | gbk
  | gb18030
  | hz
  | eucKr
  | cp949
  | johab
  | shiftJis
  | cp932
  | shiftJisX0213 (edition : Japanese.Edition)
  | eucJp
  | eucJisX0213 (edition : Japanese.Edition)
  | iso2022 (tables : Iso2022)
  deriving DecidableEq, Repr

namespace Multibyte

/-- The name that faults of writing are told with. -/
def name : Multibyte → String
  | .big5 => "big5"
  | .cp950 => "cp950"
  | .hongKong => "big5hkscs"
  | .gb2312 => "gb2312"
  | .gbk => "gbk"
  | .gb18030 => "gb18030"
  | .hz => "hz"
  | .eucKr => "euc_kr"
  | .cp949 => "cp949"
  | .johab => "johab"
  | .shiftJis => "shift_jis"
  | .cp932 => "cp932"
  | .shiftJisX0213 .of2000 => "shift_jisx0213"
  | .shiftJisX0213 .of2004 => "shift_jis_2004"
  | .eucJp => "euc_jp"
  | .eucJisX0213 .of2000 => "euc_jisx0213"
  | .eucJisX0213 .of2004 => "euc_jis_2004"
  | .iso2022 .jp => "iso2022_jp"
  | .iso2022 .jp1 => "iso2022_jp_1"
  | .iso2022 .jp2 => "iso2022_jp_2"
  | .iso2022 .jp2004 => "iso2022_jp_2004"
  | .iso2022 .jp3 => "iso2022_jp_3"
  | .iso2022 .jpExt => "iso2022_jp_ext"
  | .iso2022 .kr => "iso2022_kr"

/-- The characters of octets of which those beyond ASCII come in pairs. -/
def decodePairs (char? : Nat → Option Char) (octets : Octets) : Except Fault (List Char) :=
  decodeFrom (fun _ => openingOfPairs fun n => (char? n).map ([·])) () [] octets

/-- The characters of octets where some that are beyond ASCII stand alone. -/
def decodeShifted (last : Nat) (one : UInt8 → Option Char) (two : Nat → Option (List Char))
    (octets : Octets) : Except Fault (List Char) :=
  decodeFrom (fun _ => Japanese.openingShifted last one two) () [] octets

def decodeEuc (two : Nat → Option (List Char)) (three : Nat → Option Char) (octets : Octets) :
    Except Fault (List Char) :=
  decodeFrom (fun _ => Japanese.openingEuc two three) () [] octets

def decode : Multibyte → Octets → Except Fault (List Char)
  | .big5, octets => decodePairs Chinese.big5? octets
  | .cp950, octets => decodePairs Chinese.cp950? octets
  | .hongKong, octets =>
    decodeFrom (fun _ => openingOfPairs Chinese.hongKongChars?) () [] octets
  | .gb2312, octets => decodePairs Chinese.gb2312? octets
  | .gbk, octets => decodePairs Chinese.gbk? octets
  | .gb18030, octets => decodeFrom (fun _ => Chinese.openingGb18030) () [] octets
  | .hz, octets => decodeFrom Chinese.openingHz false [] octets
  | .eucKr, octets => decodeFrom (fun _ => Korean.openingEuc) () [] octets
  | .cp949, octets => decodePairs Korean.cp949? octets
  | .johab, octets => decodePairs Korean.johab? octets
  | .shiftJis, octets =>
    decodeShifted Japanese.lastLead Japanese.shiftJisOne?
      (fun n => (Japanese.shiftJis? n).map ([·])) octets
  | .cp932, octets =>
    decodeFrom (fun _ => Japanese.openingCp932) () [] octets
  | .shiftJisX0213 e, octets =>
    decodeShifted Japanese.lastLead2004 Japanese.shiftJis2004One? (Japanese.shiftJis2004? e)
      octets
  | .eucJp, octets => decodeEuc Japanese.eucChars? Grid.jis0212.char? octets
  | .eucJisX0213 e, octets => decodeEuc (Japanese.plane1? e) (Japanese.eucJisThree? e) octets
  | .iso2022 p, octets => decodeFrom p.opening .initial [] octets

/-- The octets of characters whose numbers are looked up. -/
def encodeNumbers (number? : Char → Option Nat) (cs : List Char) :
    Except (Nat × Char) Octets :=
  encodeFrom (fun _ => startOfNumbers number?) 0 () [] cs

/-- The octets of characters that have numbers of two octets. -/
def encodePairs (p : Preference) (char? : Nat → Option Char) (cs : List Char) :
    Except (Nat × Char) Octets :=
  let known := Inverse.ofNumbers p char? Chinese.pairs
  encodeNumbers (known[·]?) cs

/-- A character that is found only if its number is none of some. -/
def except (numbers : List Nat) (char? : Nat → Option Char) (n : Nat) : Option Char :=
  if numbers.contains n then none else char? n

/-- The octets of characters, or the position of one that is lacking and that character. -/
def encode : Multibyte → List Char → Except (Nat × Char) Octets
  | .big5, cs => encodePairs .last Chinese.big5? cs
  | .cp950, cs =>
    let known := Inverse.ofNumbers .first (except Chinese.repeated Chinese.cp950?) Chinese.pairs
    encodeNumbers (fun c => (known[c]?).orElse fun _ => Grid.big5.number? c) cs
  | .hongKong, cs =>
    let known := Inverse.ofNumbers .last Chinese.hongKong? Chinese.pairs
    encodeFrom (fun _ => Chinese.startComposed Chinese.composed (known[·]?)) 0 () [] cs
  | .gb2312, cs => encodeNumbers (fun c => (Grid.gb2312.number? c).map (· + Chinese.shift)) cs
  | .gbk, cs => encodePairs .first Chinese.gbk? cs
  | .gb18030, cs =>
    let known := Inverse.ofNumbers .first Chinese.gb18030Pair? Chinese.pairs
    encodeNumbers (Chinese.gb18030Number? known) cs
  | .hz, cs => encodeFrom Chinese.startHz 0 false [] cs
  | .eucKr, cs => encodeFrom (fun _ => Korean.startEuc) 0 () [] cs
  | .cp949, cs => encodePairs .first Korean.cp949? cs
  | .johab, cs => encodePairs .last Korean.johab? cs
  | .shiftJis, cs => encodeNumbers Japanese.shiftJisNumber? cs
  | .cp932, cs =>
    let known := Inverse.ofNumbers .first Japanese.cp932? Chinese.pairs
    encodeNumbers (Japanese.cp932Number? known) cs
  | .shiftJisX0213 e, cs => encodeFrom (fun _ => Japanese.startShiftJis2004 e) 0 () [] cs
  | .eucJp, cs => encodeNumbers Japanese.eucJpNumber? cs
  | .eucJisX0213 e, cs => encodeFrom (fun _ => Japanese.startEucJis e) 0 () [] cs
  | .iso2022 p, cs => encodeFrom p.start 0 .initial [] cs

end Multibyte

end SourceConventions
