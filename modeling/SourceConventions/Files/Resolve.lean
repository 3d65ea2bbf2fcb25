import SourceConventions.Files.Tree

/-!
# Real paths

The real path of a path has no links, no points and no double points in it. Names that lead to
nothing stay as they are.
-/

namespace SourceConventions

/-- A path on whose way a link leads back to itself. -/
structure LinkLoop where
  location : Location
  deriving DecidableEq, Repr

/-- Why a path has no real path. -/
inductive ResolveFault where
  | loop (l : LinkLoop)
  | nullInPath
  deriving DecidableEq, Repr

namespace ResolveFault

def kind : ResolveFault → String
  | .loop _ => "RuntimeError"
  | .nullInPath => FileFault.nullInPath.kind

def text : ResolveFault → String
  | .loop l => s!"Symlink loop from {Text.quotedString (FileTree.locationText l.location)}"
  | .nullInPath => FileFault.nullInPath.text

end ResolveFault

namespace FileTree

/-- Follows names from a location that is real. A link is followed by itself first; `active` are the
links that are being followed, and `depth` is how many more may be. -/
def realNames (top : Entry) (depth : Nat) (active : List Location) (loc : Location)
    (names : List String) : Except LinkLoop Location :=
  match names with
  | [] => .ok loc
  | name :: rest =>
    if name = "." then realNames top depth active loc rest
    else if name = ".." then realNames top depth active loc.dropLast rest
    else
      match top.at? (loc ++ [name]) with
      | some (.link target) =>
        match depth with
        | 0 => .error ⟨loc ++ name :: rest⟩
        | inner + 1 =>
          if active.contains (loc ++ [name]) then .error ⟨loc ++ name :: rest⟩
          else
            let start := if isAbsolute target then [] else loc
            match realNames top inner ((loc ++ [name]) :: active) start (steps target) with
            | .error l => .error ⟨l.location ++ rest⟩
            | .ok found => realNames top (inner + 1) active found rest
      | _ => realNames top depth active (loc ++ [name]) rest
termination_by (depth, names.length)

/-- The real location of a path. -/
def realLocation (t : FileTree) (path : String) : Except ResolveFault Location :=
  if path.toList.contains '\x00' then .error .nullInPath
  else
    let start := if isAbsolute path then [] else t.here
    (realNames t.top (t.top.linkCount + 1) [] start (steps path)).mapError .loop

def realPath (t : FileTree) (path : String) : Except ResolveFault String :=
  (t.realLocation path).map locationText

end FileTree

end SourceConventions
