import SourceConventions.Mishap
import SourceConventions.Octets.Encoding

/-!
# Writing texts into a file tree
-/

namespace SourceConventions.FileTree

/-- The octets of a text in the character set of a name. -/
def encoded (charset text : String) : Except Mishap Octets :=
  match Charset.ofName? charset with
  | none => .error (.unknownCharset charset)
  | some .notText => .error (.notText charset)
  | some (.charset c) => (c.encode text).mapError .unwritten

/-- Writes a text. The file is emptied first, so that it is left empty when there are no octets for
the text. -/
def writeText (t : FileTree) (path charset text : String) : FileTree × Option Mishap :=
  let path := (Path.ofString path).text
  match t.write path [] with
  | .error f => (t, some (.file f path))
  | .ok emptied =>
    match encoded charset text with
    | .error m => (emptied, some m)
    | .ok octets =>
      match t.write path octets with
      | .ok written => (written, none)
      | .error f => (emptied, some (.file f path))

end SourceConventions.FileTree
