/-!
# Margins

The margin of a text is the longest row of blanks and tabs that all lines start with; lines of
nothing else have no say and are emptied.
-/

namespace SourceConventions.Text

/-- The lines of a text, the first of which goes on with what has been taken of it. -/
def linesFrom (taken : List Char) : List Char → List (List Char)
  | [] => [taken.reverse]
  | c :: rest => if c = '\n' then taken.reverse :: linesFrom [] rest else linesFrom (c :: taken) rest

/-- The lines of a text; a line feed ends a line and starts another. -/
def lines (cs : List Char) : List (List Char) := linesFrom [] cs

def isMarginChar (c : Char) : Bool := c == ' ' || c == '\t'

/-- The longest beginning that two texts share. -/
def shared : List Char → List Char → List Char
  | a :: as, b :: bs => if a = b then a :: shared as bs else []
  | _, _ => []

def emptied (line : List Char) : List Char := if line.all isMarginChar then [] else line

/-- The margin of lines, `none` if they are all empty. -/
def margin? : List (List Char) → Option (List Char)
  | [] => none
  | line :: rest =>
    if line.isEmpty then margin? rest
    else
      let own := line.takeWhile isMarginChar
      match margin? rest with
      | none => some own
      | some m => some (shared own m)

/-- A text without its margin. -/
def withoutMargin (cs : List Char) : List Char :=
  let ls := (lines cs).map emptied
  let width := ((margin? ls).getD []).length
  ['\n'].intercalate (ls.map (List.drop width))

/-- Every way of ending a line made the same. -/
def unifyLineEnds : List Char → List Char
  | '\r' :: '\n' :: rest => '\n' :: unifyLineEnds rest
  | c :: rest => (if c = '\r' then '\n' else c) :: unifyLineEnds rest
  | [] => []

end SourceConventions.Text
