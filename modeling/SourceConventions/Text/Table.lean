/-!
# Tables in boxes

A table is drawn with a heavy box around its header and a light one around its rows. Every column
is as wide as its longest cell, with a space on both sides.
-/

namespace SourceConventions.Text

structure Table where
  title : String
  header : List String
  rows : List (List String)
  deriving DecidableEq, Repr

namespace Table

/-- The width of every column without the spaces at its sides. -/
def widths (t : Table) : List Nat :=
  t.rows.foldl (fun ws row => List.zipWith (fun w cell => max w cell.length) ws row)
    (t.header.map String.length)

def spaces (n : Nat) : String := String.ofList (List.replicate n ' ')

/-- A text moved to the middle of a width; of an odd rest the larger part stands behind it. -/
def centred (width : Nat) (s : String) : String :=
  let rest := width - s.length
  spaces (rest / 2) ++ s ++ spaces (rest - rest / 2)

/-- A rule of a box: its left end, its line, its crossing and its right end. -/
structure Edge where
  left : String
  line : Char
  cross : String
  right : String

def topEdge : Edge := ⟨"┏", '━', "┳", "┓"⟩

def headEdge : Edge := ⟨"┡", '━', "╇", "┩"⟩

def bottomEdge : Edge := ⟨"└", '─', "┴", "┘"⟩

def drawEdge (ws : List Nat) (e : Edge) : String :=
  e.left ++ e.cross.intercalate (ws.map fun w => String.ofList (List.replicate (w + 2) e.line))
    ++ e.right

def drawRow (ws : List Nat) (bar : String) (cells : List String) : String :=
  bar ++ bar.intercalate (List.zipWith (fun w c => " " ++ c ++ spaces (w - c.length) ++ " ") ws cells)
    ++ bar

/-- The width of the whole box. -/
def boxWidth (ws : List Nat) : Nat := ws.foldl (· + ·) 0 + 3 * ws.length + 1

def lines (t : Table) : List String :=
  let ws := t.widths
  [centred (boxWidth ws) t.title, drawEdge ws topEdge, drawRow ws "┃" t.header,
    drawEdge ws headEdge] ++ t.rows.map (drawRow ws "│") ++ [drawEdge ws bottomEdge]

def text (t : Table) : String := String.join (t.lines.map (· ++ "\n"))

end Table

end SourceConventions.Text
