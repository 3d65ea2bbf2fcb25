import SourceConventions.Facts.Basic
import SourceConventions.Sorting
import SourceConventions.Syntax.Comment
import SourceConventions.Text.Blank

/-!
# Comments that turn rules off

A comment `# conventions: disable=a,b` turns the rules `a` and `b` off for the line on which it
stands. Where the comments of a text cannot be told, nothing is turned off.
-/

namespace SourceConventions.Suppressions

open Syntax

/-- What follows a word at the start of a text. -/
def behind? (word : String) (cs : List Char) : Option (List Char) :=
  if word.toList.isPrefixOf cs then some (cs.drop word.toList.length) else none

/-- The parts of a text between commas. -/
def commaParts (taken : List Char) : List Char → List (List Char)
  | [] => [taken.reverse]
  | c :: rest =>
    if c = ',' then taken.reverse :: commaParts [] rest else commaParts (c :: taken) rest

def marker : String := "conventions:"

def directive : String := "disable="

/-- The ids that a comment turns off; an empty list if it turns off none. -/
def idsOfComment (comment : List Char) : List String :=
  let body := Text.trimBlanks (comment.dropWhile (· == '#'))
  match (behind? marker body).bind fun rest => behind? directive (Text.trimBlanks rest) with
  | some list =>
    (((commaParts [] list).map Text.trimBlanks).filter (!·.isEmpty)).map String.ofList
  | none => []

/-- Adds ids to those of a line. -/
def add (line : Nat) (ids : List String) : Suppressions → Suppressions
  | [] => [(line, ids)]
  | (l, known) :: rest =>
    if l = line then (l, known ++ ids) :: rest else (l, known) :: add line ids rest

/-- The ids that comments turn off on their lines. -/
def ofComments (comments : List Comment) : Suppressions :=
  comments.foldl (fun s c =>
    match idsOfComment c.text with
    | [] => s
    | ids => add c.line ids s) []

/-- The suppressions of a text, or why its comments cannot be told. -/
def read (text : String) : Except CommentFault Suppressions :=
  (Comment.ofText text).map ofComments

/-- The suppressions of a text, none if its comments cannot be told. -/
def ofText (text : String) : Suppressions :=
  match read text with
  | .ok s => s
  | .error _ => []

/-- The ids that are turned off on a line. -/
def on (s : Suppressions) (line : Nat) : List String := (s.lookup line).getD []

/-- The word that stands for all rules. -/
def allRules : String := "all"

/-- Whether a rule is turned off on a line. -/
def turnsOff (s : Suppressions) (line : Int) (rule : String) : Bool :=
  let ids := if line < 0 then [] else s.on line.toNat
  ids.contains allRules || ids.contains rule

end SourceConventions.Suppressions
