import SourceConventions.Octets.Utf8
import SourceConventions.Path.Basic

/-!
# File trees

A tree is made of files, directories and links. A path is followed from the working directory or,
if it is absolute, from the top; on the way links are replaced by their targets.
-/

namespace SourceConventions

inductive Entry where
  | file (octets : Octets)
  | directory (entries : List (String × Entry))
  | link (target : String)
  deriving Repr, Inhabited

/-- The names on the way from the top of a tree to an entry. -/
abbrev Location := List String

structure FileTree where
  top : Entry
  /-- Where the working directory is; no name of it is that of a link. -/
  here : Location
  /-- Entries that may not be read. -/
  barred : List Location
  deriving Repr

/-- Why a path leads to nothing that can be used. -/
inductive FileFault where
  | missing
  | notDirectory
  | isDirectory
  | tooManyLinks
  | nameTooLong
  /-- The path holds a null, with which no path can be handed on. -/
  | nullInPath
  deriving DecidableEq, Repr

namespace FileFault

/-- The kind of the fault for those who do not catch it. -/
def kind : FileFault → String
  | .missing => "FileNotFoundError"
  | .notDirectory => "NotADirectoryError"
  | .isDirectory => "IsADirectoryError"
  | .tooManyLinks | .nameTooLong => "OSError"
  | .nullInPath => "ValueError"

/-- The number of a fault that the machine reports. -/
def number? : FileFault → Option Nat
  | .missing => some 2
  | .notDirectory => some 20
  | .isDirectory => some 21
  | .tooManyLinks => some 40
  | .nameTooLong => some 36
  | .nullInPath => none

def text : FileFault → String
  | .missing => "No such file or directory"
  | .notDirectory => "Not a directory"
  | .isDirectory => "Is a directory"
  | .tooManyLinks => "Too many levels of symbolic links"
  | .nameTooLong => "File name too long"
  | .nullInPath => "embedded null byte"

/-- The fault with its number, if it has one, and the path at which it was met. -/
def report (f : FileFault) (path : String) : String :=
  match f.number? with
  | some n => s!"[Errno {n}] {f.text}: {Text.quotedString path}"
  | none => f.text

end FileFault

namespace Entry

def child? (name : String) : Entry → Option Entry
  | .directory entries => entries.lookup name
  | _ => none

/-- The entry at a location, links not followed. -/
def at? : Location → Entry → Option Entry
  | [], e => some e
  | name :: rest, e => (e.child? name).bind (at? rest)

def isDirectory : Entry → Bool
  | .directory _ => true
  | _ => false

/-- Puts an entry in the place of the one of that name, or behind all others. -/
def putChild (name : String) (new : Entry) : List (String × Entry) → List (String × Entry)
  | [] => [(name, new)]
  | (n, e) :: rest => if n = name then (n, new) :: rest else (n, e) :: putChild name new rest

/-- Puts an entry at a location; directories that are missing on the way are made. -/
def put (new : Entry) : Location → Entry → Entry
  | [], _ => new
  | name :: rest, .directory entries =>
    let old := (entries.lookup name).getD (.directory [])
    .directory (putChild name (put new rest old) entries)
  | name :: rest, _ => .directory [(name, put new rest (.directory []))]

mutual

/-- The number of links in an entry. -/
def linkCount : Entry → Nat
  | .file _ => 0
  | .link _ => 1
  | .directory entries => linkCounts entries

def linkCounts : List (String × Entry) → Nat
  | [] => 0
  | (_, e) :: rest => linkCount e + linkCounts rest

end

end Entry

namespace FileTree

/-- Most links that are followed on the way of one path. -/
def maxLinks : Nat := 40

/-- The names of a path in the order in which they are followed. A slash at the end asks for a
directory, as a single point does. -/
def steps (path : String) : List String :=
  let names := ((Path.split [] path.toList).filter (!·.isEmpty)).map String.ofList
  if path.toList.getLast? = some '/' then names ++ ["."] else names

/-- Most octets of a name. -/
def maxNameOctets : Nat := 255

/-- Most octets of a path. -/
def maxPathOctets : Nat := 4095

def isAbsolute (path : String) : Bool := path.toList.head? = some '/'

/-- Follows names from a location. The entry is `none` when only the last name is missing; `links`
is how many links may still be followed. -/
def follow (top : Entry) (links : Nat) (loc : Location) (names : List String) :
    Except FileFault (Location × Option Entry) :=
  match names with
  | [] => .ok (loc, top.at? loc)
  | name :: rest =>
    match top.at? loc with
    | some (.directory entries) =>
      if name = "." then follow top links loc rest
      else if name = ".." then follow top links loc.dropLast rest
      else if maxNameOctets < name.utf8ByteSize then .error .nameTooLong
      else
        match entries.lookup name with
        | none => if rest = [] then .ok (loc ++ [name], none) else .error .missing
        | some (.link target) =>
          match links with
          | 0 => .error .tooManyLinks
          | links + 1 =>
            follow top links (if isAbsolute target then [] else loc) (steps target ++ rest)
        | some _ => follow top links (loc ++ [name]) rest
    | some _ => .error .notDirectory
    | none => .error .missing
termination_by (links, names.length)

/-- Where a path leads to, and what is there. -/
def trace (t : FileTree) (path : String) : Except FileFault (Location × Option Entry) :=
  if path = "" then .error .missing
  else if path.toList.contains '\x00' then .error .nullInPath
  else if maxPathOctets < path.utf8ByteSize then .error .nameTooLong
  else follow t.top maxLinks (if isAbsolute path then [] else t.here) (steps path)

/-- The entry to which a path leads, with its location. -/
def find (t : FileTree) (path : String) : Except FileFault (Location × Entry) := do
  match ← t.trace path with
  | (loc, some e) => return (loc, e)
  | (_, none) => .error .missing

/-- Whether there is a directory. A path that is too long is a fault; any other one that leads to
nothing is not. -/
def isDirectory (t : FileTree) (path : String) : Except FileFault Bool :=
  match t.find path with
  | .ok (_, e) => .ok e.isDirectory
  | .error .nameTooLong => .error .nameTooLong
  | .error _ => .ok false

/-- The octets of a path that leads to a file, with the fault of one that is too long. -/
def fileOctets? (t : FileTree) (path : String) : Except FileFault (Option Octets) :=
  match t.find path with
  | .ok (_, .file octets) => .ok (some octets)
  | .error .nameTooLong => .error .nameTooLong
  | _ => .ok none

/-- Whether a path leads to something that can be read or listed. -/
def isReadable (t : FileTree) (path : String) : Except FileFault Bool :=
  match t.find path with
  | .ok (loc, _) => .ok (!t.barred.contains loc)
  | .error .nameTooLong => .error .nameTooLong
  | .error .nullInPath => .error .nullInPath
  | .error _ => .ok false

def octets (t : FileTree) (path : String) : Except FileFault Octets := do
  match ← t.find path with
  | (_, .file octets) => return octets
  | (_, .directory _) => .error .isDirectory
  | (_, .link _) => .error .tooManyLinks

/-- Writes a file, whether or not there is one already. -/
def write (t : FileTree) (path : String) (octets : Octets) : Except FileFault FileTree := do
  match ← t.trace path with
  | (_, some (.directory _)) => .error .isDirectory
  | (loc, _) => return { t with top := Entry.put (.file octets) loc t.top }

/-- Puts an entry below the working directory; directories that are missing on the way are made,
and a directory that is there already is kept. -/
def place (t : FileTree) (path : String) (e : Entry) : FileTree :=
  let loc := t.here ++ (Path.ofString path).names
  match e, t.top.at? loc with
  | .directory _, some _ => t
  | _, _ => { t with top := Entry.put e loc t.top }

/-- The text of a location. -/
def locationText (loc : Location) : String := "/" ++ "/".intercalate loc

/-- A tree with a working directory that holds nothing. -/
def empty (here : Location) : FileTree := ⟨Entry.put (.directory []) here (.directory []), here, []⟩

end FileTree

end SourceConventions
