/-!
# Korean syllables

A syllable is composed of a leading consonant, a vowel and possibly a trailing consonant. Syllables
are numbered in the order of these.
-/

namespace SourceConventions.Text.Hangul

def leadingLetters : List Char := "ㄱㄲㄴㄷㄸㄹㅁㅂㅃㅅㅆㅇㅈㅉㅊㅋㅌㅍㅎ".toList

def vowelLetters : List Char := "ㅏㅐㅑㅒㅓㅔㅕㅖㅗㅘㅙㅚㅛㅜㅝㅞㅟㅠㅡㅢㅣ".toList

def trailingLetters : List Char := "ㄱㄲㄳㄴㄵㄶㄷㄹㄺㄻㄼㄽㄾㄿㅀㅁㅂㅄㅅㅆㅇㅈㅊㅋㅌㅍㅎ".toList

def leadingCount : Nat := leadingLetters.length

def vowelCount : Nat := vowelLetters.length

/-- The number of ways in which a syllable can end, one of which is without a consonant. -/
def trailingCount : Nat := trailingLetters.length + 1

def first : Nat := 0xac00

/-- The sounds of a syllable by their positions; a trailing consonant of zero is none. -/
structure Sounds where
  leading : Nat
  vowel : Nat
  trailing : Nat
  deriving DecidableEq, Repr

/-- The code point of a syllable. -/
def Sounds.code (s : Sounds) : Nat :=
  first + (s.leading * vowelCount + s.vowel) * trailingCount + s.trailing

/-- The sounds of a syllable. -/
def sounds? (c : Char) : Option Sounds :=
  let n := c.toNat - first
  let s : Sounds :=
    ⟨n / trailingCount / vowelCount, n / trailingCount % vowelCount, n % trailingCount⟩
  if c.toNat < first || leadingCount ≤ s.leading then none else some s

/-- All syllables in order. -/
def syllables : List Char :=
  (List.range' first (leadingCount * vowelCount * trailingCount)).map Char.ofNat

end SourceConventions.Text.Hangul
