import SourceConventions.Octets.CharsetName
import SourceConventions.Text.Quoted

/-!
# The declared character set of a source file

A mark at its start makes a file UTF-8. Else a comment on one of the first two lines may name the
character set; the second line counts only if the first is blank or a comment. Without either, a
file is UTF-8.
-/

namespace SourceConventions

inductive DeclarationFault where
  /-- A line that could hold a declaration is no UTF-8. -/
  | unreadable
  | unknown (name : String)
  /-- A file with a mark declares another character set. -/
  | conflicting
  deriving DecidableEq, Repr

namespace Declaration

def byteOrderMark : Octets := [0xef, 0xbb, 0xbf]

/-- The first line of octets with its line feed, and what follows. -/
def splitLine (octets : Octets) : Octets × Octets :=
  let line := octets.takeWhile (· != 0x0a)
  let rest := octets.drop line.length
  (line ++ rest.take 1, rest.drop 1)

def isSpace (c : Char) : Bool := c == ' ' || c == '\t' || c == '\x0c'

def isNameChar (c : Char) : Bool := c.isAlphanum || c == '_' || c == '-' || c == '.'

def keyword : List Char := ['c', 'o', 'd', 'i', 'n', 'g']

/-- The name in a declaration that starts a text. -/
def nameHere? (cs : List Char) : Option (List Char) :=
  if keyword.isPrefixOf cs then
    match cs.drop keyword.length with
    | mark :: rest =>
      let name := (rest.dropWhile fun c => c == ' ' || c == '\t').takeWhile isNameChar
      if (mark == ':' || mark == '=') && !name.isEmpty then some name else none
    | [] => none
  else none

/-- The name in the first declaration of a comment. -/
def nameIn? : List Char → Option (List Char)
  | [] => none
  | c :: rest =>
    match nameHere? (c :: rest) with
    | some name => some name
    | none => nameIn? rest

/-- The name that a line declares. -/
def name? (line : List Char) : Option String :=
  match line.dropWhile isSpace with
  | '#' :: comment => (nameIn? (comment.takeWhile (· != '\n'))).map String.ofList
  | _ => none

/-- Whether a name is one of those given or one of them with a hyphen behind it. -/
def isOrStarts (bases : List String) (name : List Char) : Bool :=
  bases.any fun base => name == base.toList || (base.toList ++ ['-']).isPrefixOf name

/-- The common names of the two best known character sets; other names stay what they are. -/
def commonName (name : String) : String :=
  let short := (name.toList.take 12).map fun c => if c == '_' then '-' else c.toLower
  if isOrStarts ["utf-8"] short then "utf-8"
  else if isOrStarts ["latin-1", "iso-8859-1", "iso-latin-1"] short then "iso-8859-1"
  else name

/-- What a line declares: a name and what it stands for. -/
def ofLine (marked : Bool) (line : Octets) :
    Except DeclarationFault (Option (String × Coding)) :=
  match Utf8.decode line with
  | .error _ => .error .unreadable
  | .ok cs =>
    match (name? cs).map commonName with
    | none => .ok none
    | some name =>
      match Charset.ofName? name with
      | none => .error (.unknown name)
      | some coding =>
        if marked && name != "utf-8" then .error .conflicting else .ok (some (name, coding))

def isSpaceOctet (b : UInt8) : Bool := b == 0x20 || b == 0x09 || b == 0x0c

/-- Whether a line holds blanks or a comment only. -/
def isBlank (line : Octets) : Bool :=
  match line.dropWhile isSpaceOctet with
  | [] => true
  | b :: _ => b == 0x23 || b == 0x0d || b == 0x0a

def default : String × Coding := ("utf-8", .charset .utf8)

/-- The declared character set of a file without its mark, with the name that it goes by. -/
def find (marked : Bool) (octets : Octets) : Except DeclarationFault (String × Coding) := do
  let (first, rest) := splitLine octets
  match ← ofLine marked first with
  | some found => return found
  | none =>
    if isBlank first then
      let second ← ofLine marked (splitLine rest).1
      return second.getD default
    else return default

end Declaration

end SourceConventions
