/-!
# Globs

`*` stands for any text, `?` for any character and a bracketed set for one of its characters; all
else stands for itself. A bracket that is not closed stands for itself too. A match covers the
whole text, and neither `*` nor `?` stops at a slash.
-/

namespace SourceConventions

namespace Glob

/-- One piece of a glob. A set lists closed ranges of characters. -/
inductive Piece where
  | run
  | char (c : Char)
  | set (negated : Bool) (ranges : List (Char × Char))
  deriving DecidableEq, Repr

/-- The piece that stands for any one character. -/
def Piece.any : Piece := .set true []

def Piece.accepts : Piece → Char → Bool
  | .run, _ => false
  | .char d, c => c == d
  | .set negated ranges, c => (ranges.any fun r => r.1 ≤ c && c ≤ r.2) != negated

/-- The stretches of a set between the hyphens that make ranges. A hyphen is such a hyphen when at
least `least` characters stand before it; the last one of a set is a plain character. -/
def stretches : Nat → Nat → List Char → List (List Char)
  | 0, _, cs => [cs]
  | fuel + 1, least, cs =>
    let body := cs.take least ++ (cs.drop least).takeWhile (· != '-')
    match (cs.drop least).dropWhile (· != '-') with
    | [] => [cs]
    | _ :: [] => [body ++ ['-']]
    | _ :: rest => body :: stretches fuel 2 rest

/-- Joins stretches whose hyphen would make an empty range, from the right; both ends go. -/
def joinEmptyRanges : List (List Char) → List (List Char)
  | [] => []
  | first :: rest =>
    match joinEmptyRanges rest with
    | [] => [first]
    | next :: others =>
      match first.getLast?, next.head? with
      | some low, some high =>
        if high < low then (first.dropLast ++ next.tail) :: others else first :: next :: others
      | _, _ => first :: next :: others

def singles (cs : List Char) : List (Char × Char) := cs.map fun c => (c, c)

/-- The range that the hyphen between two stretches makes. -/
def between (first : List Char) (rest : List (List Char)) : List (Char × Char) :=
  match first.getLast?, rest.head?.bind List.head? with
  | some low, some high => [(low, high)]
  | _, _ => []

/-- The characters of the stretches and the ranges between neighbours. -/
def rangesOf : List (List Char) → List (Char × Char)
  | [] => []
  | first :: rest => singles first ++ between first rest ++ rangesOf rest

/-- The inside of a set, with the mark of a negated one, and what follows its closing bracket. A
bracket that comes first does not close. -/
def setBody (cs : List Char) : Option (List Char × List Char) :=
  let (mark, cs) :=
    match cs with
    | '!' :: rest => (['!'], rest)
    | _ => ([], cs)
  let (first, cs) :=
    match cs with
    | ']' :: rest => ([']'], rest)
    | _ => ([], cs)
  match cs.dropWhile (· != ']') with
  | [] => none
  | _ :: rest => some (mark ++ first ++ cs.takeWhile (· != ']'), rest)

/-- The stretches of the inside of a set that are left when no range is empty. -/
def properStretches (body : List Char) : List (List Char) :=
  if body.contains '-' then
    joinEmptyRanges (stretches body.length (if body.head? = some '!' then 2 else 1) body)
  else [body]

/-- The piece of a set. What is left of its inside is negated if it starts with the mark; a hyphen
right behind the mark is a plain character. -/
def setPiece (body : List Char) : Piece :=
  match properStretches body with
  | ['!'] :: next :: rest => .set true (('-', '-') :: rangesOf (next :: rest))
  | ('!' :: first) :: rest => .set true (rangesOf (first :: rest))
  | parts => .set false (rangesOf parts)

def piecesOf : Nat → List Char → List Piece
  | 0, _ => []
  | fuel + 1, cs =>
    match cs with
    | [] => []
    | '*' :: rest => .run :: piecesOf fuel rest
    | '?' :: rest => .any :: piecesOf fuel rest
    | '[' :: rest =>
      match setBody rest with
      | none => .char '[' :: piecesOf fuel rest
      | some (body, rest) => setPiece body :: piecesOf fuel rest
    | c :: rest => .char c :: piecesOf fuel rest

def pieces (glob : List Char) : List Piece := piecesOf glob.length glob

/-- From the answers for the tails of a text, the tail itself first, the answers for a glob that
has `p` in front. -/
def extend (p : Piece) : List Char → List Bool → List Bool
  | c :: cs, b :: bs =>
    match extend p cs bs with
    | [] => []
    | later@(next :: _) =>
      (match p with
        | .run => b || next
        | _ => p.accepts c && bs.headD false) :: later
  | _, bs =>
    match p with
    | .run => bs
    | _ => [false]

/-- For every tail of the text, longest first, whether the pieces match it. -/
def answers : List Piece → List Char → List Bool
  | [], cs => List.replicate cs.length false ++ [true]
  | p :: rest, cs => extend p cs (answers rest cs)

def matchesPieces (ps : List Piece) (cs : List Char) : Bool := (answers ps cs).headD false

end Glob

/-- Whether a glob matches a whole text. -/
def Glob.accepts (glob text : List Char) : Bool := matchesPieces (pieces glob) text

/-- A path with slashes only and without one leading `./`. -/
def Glob.plainPath (path : String) : List Char :=
  match path.toList.map (fun c => if c == '\\' then '/' else c) with
  | '.' :: '/' :: rest => rest
  | cs => cs

def Glob.withoutFinalSlashes (glob : List Char) : List Char :=
  (glob.reverse.dropWhile (· == '/')).reverse

/-- Whether a glob names the path or a directory above it. -/
def Glob.covers (glob : String) (path : String) : Bool :=
  let text := plainPath path
  let bare := withoutFinalSlashes glob.toList
  accepts glob.toList text || accepts bare text || accepts (bare ++ ['/', '*']) text

end SourceConventions
