/-!
# Grids of characters

A character set of two octets a character numbers its characters by both octets together. A grid
holds the characters from a number on.
-/

namespace SourceConventions

structure Grid where
  start : Nat
  /-- The characters of consecutive numbers, with `absent` where there is none. -/
  cells : Array Char

namespace Grid

def absent : Char := '\x00'

/-- The largest number of two octets. -/
def largest : Nat := 0xffff

/-- The value of an upper case hexadecimal digit. -/
def digit? (c : Char) : Option Nat :=
  if c.isDigit then some (c.toNat - '0'.toNat)
  else if 'A' ≤ c ∧ c ≤ 'F' then some (c.toNat - 'A'.toNat + 10)
  else none

/-- A grid of which a part has been read from a text. -/
structure Filling where
  grid : Grid
  /-- The number of the next character. -/
  next : Nat
  /-- Whether a digit stands just before. -/
  inNumber : Bool

def Filling.read (f : Filling) (c : Char) : Filling :=
  if c == ' ' || c == '\n' then { f with inNumber := false }
  else
    match digit? c with
    | some d => ⟨f.grid, if f.inNumber then f.next * 16 + d else d, true⟩
    | none =>
      let cells := f.grid.cells.setIfInBounds (f.next - f.grid.start) c
      ⟨{ f.grid with cells }, f.next + 1, false⟩

/-- The grid of a text that holds hexadecimal numbers and behind each of them characters of
consecutive numbers. Blanks and line feeds do not matter. -/
def ofText (start : Nat) (text : String) : Grid :=
  let empty : Grid := ⟨start, Array.replicate (largest + 1 - start) absent⟩
  (text.foldl Filling.read ⟨empty, start, false⟩).grid

/-- The character of a number. -/
def char? (g : Grid) (n : Nat) : Option Char :=
  if n < g.start then none else (g.cells[n - g.start]?).filter (· != absent)

/-- The first number of a character. -/
def number? (g : Grid) (c : Char) : Option Nat :=
  if c == absent then none else (g.cells.findIdx? (· == c)).map (· + g.start)

/-- The last number of a character. -/
def lastNumber? (g : Grid) (c : Char) : Option Nat :=
  if c == absent then none
  else (g.cells.reverse.findIdx? (· == c)).map fun i => g.start + g.cells.size - 1 - i

end Grid

end SourceConventions
