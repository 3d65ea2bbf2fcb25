import SourceConventions.Files.Tree
import SourceConventions.Log
import SourceConventions.Rules.Layout
import SourceConventions.Sorting

/-!
# Walks through a file tree

A walk goes down from a root through directories whose names are not excluded. It does not go
through links, though a link to a directory counts as one.
-/

namespace SourceConventions

/-- Names of directories that hold no sources of a project. -/
def defaultExcludedNames : List String :=
  [".git", ".hg", ".mypy_cache", ".pytest_cache", ".ruff_cache", ".tox", ".venv", "__pycache__",
    "build", "dist", "node_modules", "venv"]

namespace FileTree

/-- Whether an entry is a directory or a link that leads to one. -/
def leadsToDirectory (t : FileTree) (loc : Location) (name : String) : Entry → Bool
  | .directory _ => true
  | .file _ => false
  | .link _ =>
    match follow t.top maxLinks loc [name] with
    | .ok (_, some e) => e.isDirectory
    | _ => false

def sourceEnding : List Char := ['.', 'p', 'y']

def isSourceName (name : String) : Bool := sourceEnding.isSuffixOf name.toList

mutual

/-- The locations, relative to the root of a walk, of the source files in an entry. -/
def sourcesIn (t : FileTree) (excluded : List String) (root below : Location) :
    Entry → List Location
  | .directory entries => sourcesAmong t excluded root below entries
  | _ => []

def sourcesAmong (t : FileTree) (excluded : List String) (root below : Location) :
    List (String × Entry) → List Location
  | [] => []
  | (name, e) :: rest =>
    let own :=
      if leadsToDirectory t (root ++ below) name e then
        if excluded.contains name then [] else sourcesIn t excluded root (below ++ [name]) e
      else if isSourceName name then [below ++ [name]]
      else []
    own ++ sourcesAmong t excluded root below rest

end

mutual

/-- The locations, relative to the root of a walk, of the directories in an entry. Those whose name
is excluded are told, but not entered. -/
def directoriesIn (t : FileTree) (excluded : List String) (root below : Location) :
    Entry → List Location
  | .directory entries => directoriesAmong t excluded root below entries
  | _ => []

def directoriesAmong (t : FileTree) (excluded : List String) (root below : Location) :
    List (String × Entry) → List Location
  | [] => []
  | (name, e) :: rest =>
    let own :=
      if leadsToDirectory t (root ++ below) name e then
        (below ++ [name]) ::
          (if excluded.contains name then [] else directoriesIn t excluded root (below ++ [name]) e)
      else []
    own ++ directoriesAmong t excluded root below rest

end

def relativeText (loc : Location) : String := "/".intercalate loc

/-- What a walk is told of the root: a directory and its location. -/
def walkRoot (t : FileTree) (root : String) : Except FileFault (Location × Entry) := do
  match ← t.find root with
  | (loc, .directory entries) => return (loc, .directory entries)
  | _ => .error .notDirectory

/-- What is said in the log about a root that cannot be listed. -/
def unreadableLog (root : String) (f : FileFault) : LogEntry :=
  ⟨.warning, .files, s!"Skipping unreadable path {root}: {f.text}"⟩

/-- The locations that a walk from a root finds, with what it logs. A root that cannot be listed
holds nothing; only a path with a null is a fault. -/
def walk (t : FileTree) (root : String) (found : Location → Entry → List Location) :
    Except FileFault (List String × List LogEntry) :=
  match t.walkRoot root with
  | .error .nullInPath => .error .nullInPath
  | .error f => .ok ([], [unreadableLog root f])
  | .ok (loc, e) => .ok ((found loc e).map relativeText, [])

/-- The paths of the source files below a root, in order. -/
def sources (t : FileTree) (root : String) (excluded : List String) :
    Except FileFault (List String × List LogEntry) := do
  let (paths, logs) ← t.walk (Path.ofString root).text fun loc e => sourcesIn t excluded loc [] e
  return (Sorting.strings paths, logs)

/-- The directories below a root. -/
def snapshot (t : FileTree) (root : String) (excluded : List String) :
    Except FileFault (DirectorySnapshot × List LogEntry) := do
  let root := (Path.ofString root).text
  let (paths, logs) ← t.walk root fun loc e => directoriesIn t excluded loc [] e
  return (⟨root, paths⟩, logs)

end FileTree

end SourceConventions
