import SourceConventions.FileResult
import SourceConventions.Mishap
import SourceConventions.Octets.Declaration
import SourceConventions.Text.Margin

/-!
# Source files

A source file is read as a text in its declared character set, with every line end made a line
feed.
-/

namespace SourceConventions

/-- Why a source file is no text. -/
inductive SourceFault where
  | file (fault : FileFault)
  | declaration (path : String) (fault : DeclarationFault)
  | undecodable (fault : CharsetFault)
  deriving DecidableEq, Repr

namespace SourceFault

def declarationText (path : String) : DeclarationFault → String
  | .unreadable => s!"invalid or missing encoding declaration for {Text.quotedString path}"
  | .unknown name => s!"unknown encoding for {Text.quotedString path}: {name}"
  | .conflicting => s!"encoding problem for {Text.quotedString path}: utf-8"

def text : SourceFault → String
  | .file f => s!"cannot read file: {f.text}"
  | .declaration path f => s!"cannot decode source: {declarationText path f}"
  | .undecodable f => s!"cannot decode source: {f.reason}"

end SourceFault

/-- A fault that is told of the file, or one that is not foreseen. -/
inductive SourceTrouble where
  | fault (f : SourceFault)
  | mishap (m : Mishap)
  deriving Repr

namespace SourceFile

/-- Whether octets start with a mark, and the octets behind it. -/
def unmarked (octets : Octets) : Bool × Octets :=
  if Declaration.byteOrderMark.isPrefixOf octets then
    (true, octets.drop Declaration.byteOrderMark.length)
  else (false, octets)

/-- The text of octets of a file with that path, its line ends as they are. -/
def decode (path : String) (octets : Octets) : Except SourceTrouble String :=
  let (marked, body) := unmarked octets
  match Declaration.find marked body with
  | .error f => .error (.fault (.declaration path f))
  | .ok (name, .notText) => .error (.mishap (.notText name))
  | .ok (_, .charset c) =>
    match c.decode body with
    | .ok cs => .ok (String.ofList cs)
    | .error (.refused r) => .error (.mishap (.refused r))
    | .error f => .error (.fault (.undecodable f))

/-- A text whose lines end in line feeds. -/
def unified (text : String) : String := String.ofList (Text.unifyLineEnds text.toList)

def read (t : FileTree) (path : String) : Except SourceTrouble String :=
  match t.octets path with
  | .error .nullInPath => .error (.mishap (.file .nullInPath path))
  | .error f => .error (.fault (.file f))
  | .ok octets => (decode path octets).map unified

/-- The characters of a line, with a replacement for all that is not ASCII in a line that is not
UTF-8. -/
def lossyLine (octets : Octets) : List Char :=
  match Utf8.decode octets with
  | .ok cs => cs
  | .error _ => octets.map fun b => if b.toNat < 0x80 then Char.ofNat b.toNat else '\ufffd'

/-- The lines of the file that has the name of the module in a file as its path. -/
def namesakeLines (t : FileTree) (path : String) : List (List Char) :=
  match Path.moduleName? path with
  | .error _ => []
  | .ok name =>
    match t.octets name with
    | .error _ => []
    | .ok octets =>
      let text := Text.unifyLineEnds (lossyLine (unmarked octets).2)
      let lines := Text.lines text
      if text.getLast? = some '\n' || text.isEmpty then lines.dropLast else lines

/-- A path below a root. -/
def pathBelow (root path : String) : String := (Path.join [root, path]).text

end SourceFile

end SourceConventions
