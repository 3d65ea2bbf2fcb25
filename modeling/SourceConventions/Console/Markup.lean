import SourceConventions.Console.Shortcode
import SourceConventions.Console.Style

/-!
# Markup of console texts

A tag is a bracketed text that starts with a small letter, `#`, `/` or `@`. Tags are not shown;
a backslash before a tag makes it a text like others. A tag opens a style, one with a slash closes
the style that it names or, without a name, the last one.
-/

namespace SourceConventions.Markup

def startsTag (c : Char) : Bool := c.isLower || c == '#' || c == '/' || c == '@'

/-- A tag at the start of a text, with its brackets, and what follows it. -/
def tag? : List Char → Option (List Char × List Char)
  | '[' :: c :: rest =>
    if startsTag c then
      let body := rest.takeWhile fun d => d != '[' && d != ']'
      match rest.drop body.length with
      | ']' :: others => some ('[' :: c :: body ++ [']'], others)
      | _ => none
    else none
  | _ => none

/-- Puts a backslash before every tag and doubles those that stand there. -/
def escapeTags : Nat → List Char → List Char
  | 0, cs => cs
  | _, [] => []
  | fuel + 1, cs@(c :: rest) =>
    let slashes := cs.takeWhile (· == '\\')
    match tag? (cs.drop slashes.length) with
    | some (tag, others) => slashes ++ slashes ++ '\\' :: tag ++ escapeTags fuel others
    | none => c :: escapeTags fuel rest

/-- Doubles a backslash that stands alone at the end. -/
def guardEnd (cs : List Char) : List Char :=
  match cs.reverse with
  | '\\' :: '\\' :: _ => cs
  | '\\' :: _ => cs ++ ['\\']
  | _ => cs

/-- Markup that shows a text. -/
def escape (cs : List Char) : List Char := guardEnd (escapeTags cs.length cs)

/-- A part of markup: a text that is shown, or a tag, with what stands in its brackets. -/
inductive Piece where
  | text (cs : List Char)
  | tag (position : Nat) (body : List Char)
  deriving DecidableEq, Repr

/-- A piece of text, unless it is empty. -/
def textPiece (cs : List Char) : List Piece := if cs.isEmpty then [] else [.text cs]

/-- The pieces of markup from a position on. `taken` is the text in front of it that belongs to no
piece yet, the last character first. Backslashes before a tag are halved; an odd one shows the
tag. -/
def piecesFrom (position : Nat) (taken : List Char) : Nat → List Char → List Piece
  | 0, cs => textPiece (taken.reverse ++ cs)
  | _, [] => textPiece taken.reverse
  | fuel + 1, cs@(c :: rest) =>
    let slashes := (cs.takeWhile (· == '\\')).length
    match tag? (cs.drop slashes) with
    | some (tag, others) =>
      let piece :=
        if slashes % 2 = 1 then .text tag
        else .tag (position + slashes) (tag.drop 1).dropLast
      textPiece taken.reverse ++ textPiece (List.replicate (slashes / 2) '\\')
        ++ piece :: piecesFrom (position + slashes + tag.length) [] fuel others
    | none => piecesFrom (position + 1) (c :: taken) fuel rest

def pieces (cs : List Char) : List Piece := piecesFrom 0 [] cs.length cs

/-- A text without the backslashes in front of its brackets. -/
def withoutSlashes : List Char → List Char
  | '\\' :: '[' :: rest => '[' :: withoutSlashes rest
  | c :: rest => c :: withoutSlashes rest
  | [] => []

/-- Why markup cannot be shown. -/
inductive Fault where
  | nothingToClose (position : Nat)
  | notOpen (tag : List Char) (position : Nat)
  deriving DecidableEq, Repr

def Fault.text : Fault → String
  | .nothingToClose position => s!"closing tag '[/]' at position {position} has nothing to close"
  | .notOpen tag position =>
    s!"closing tag '[{String.ofList tag}]' at position {position} doesn't match any open tag"

/-- The styles that are open behind a tag, the last one first. -/
def styles (opened : List String) (position : Nat) (body : List Char) :
    Except Fault (List String) :=
  let name := body.takeWhile (· != '=')
  match name with
  | '/' :: style =>
    if (Text.trimBlanks style).isEmpty then
      match opened with
      | [] => .error (.nothingToClose position)
      | _ :: others => .ok others
    else
      let style := TextStyle.normalForm (Text.trimBlanks style)
      if opened.contains style then .ok (opened.erase style) else .error (.notOpen body position)
  | _ => .ok (TextStyle.normalForm name :: opened)

/-- The text that pieces show. -/
def shown (opened : List String) : List Piece → Except Fault (List Char)
  | [] => .ok []
  | .text cs :: rest => do
    let others ← shown opened rest
    return Shortcode.replace (withoutSlashes cs) ++ others
  | .tag position body :: rest => do shown (← styles opened position body) rest

/-- The text that markup shows. -/
def plain (cs : List Char) : Except Fault (List Char) := shown [] (pieces cs)

end SourceConventions.Markup
