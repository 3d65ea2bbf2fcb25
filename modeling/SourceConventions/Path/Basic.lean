import SourceConventions.Text.Quoted

/-!
# Paths

A path is a row of names below an anchor. Empty names and single points are left out when a text
is read as a path; double points are names like others.
-/

namespace SourceConventions

/-- Where a path starts. Two slashes are a start of their own, more than two are one. -/
inductive Anchor where
  | here
  | root
  | network
  deriving DecidableEq, Repr

def Anchor.text : Anchor → String
  | .here => ""
  | .root => "/"
  | .network => "//"

structure Path where
  anchor : Anchor
  names : List String
  deriving DecidableEq, Repr

namespace Path

/-- The parts of a text between slashes. -/
def split (taken : List Char) : List Char → List (List Char)
  | [] => [taken.reverse]
  | c :: rest => if c = '/' then taken.reverse :: split [] rest else split (c :: taken) rest

def namesOf (cs : List Char) : List String :=
  (((split [] cs).filter fun n => !n.isEmpty && n != ['.'])).map String.ofList

def anchorOf (cs : List Char) : Anchor :=
  match (cs.takeWhile (· == '/')).length with
  | 0 => .here
  | 2 => .network
  | _ => .root

def ofString (s : String) : Path := ⟨anchorOf s.toList, namesOf s.toList⟩

def text (p : Path) : String :=
  if p.anchor = .here ∧ p.names = [] then "." else p.anchor.text ++ "/".intercalate p.names

def isAbsolute (p : Path) : Bool := p.anchor ≠ .here

/-- A path below another one; an absolute path stays what it is. -/
def append (p q : Path) : Path :=
  if q.isAbsolute then q else ⟨p.anchor, p.names ++ q.names⟩

/-- The path of texts, each below those in front of it. -/
def join (texts : List String) : Path := texts.foldl (fun p s => p.append (ofString s)) ⟨.here, []⟩

def name (p : Path) : String := p.names.getLastD ""

/-- The path above; that of an anchor is itself. -/
def parent (p : Path) : Path := ⟨p.anchor, p.names.dropLast⟩

/-- A name without what follows its last point, unless the point is its first or last
character. -/
def stem (name : String) : String :=
  let cs := name.toList
  let ending := (cs.reverse.takeWhile (· != '.')).length
  let kept := cs.length - ending - 1
  if ending < cs.length ∧ 0 < kept ∧ 0 < ending then String.ofList (cs.take kept) else name

end Path

/-- A path that has no last name. -/
structure NamelessPath where
  path : Path
  deriving DecidableEq, Repr

def NamelessPath.text (p : NamelessPath) : String :=
  s!"PurePosixPath({Text.quotedString p.path.text}) has an empty name"

namespace Path

/-- The parts of a path, its anchor first if it has one. -/
def parts (p : Path) : List String :=
  (if p.anchor = .here then [] else [p.anchor.text]) ++ p.names

/-- The last name of the path of a package's own file. -/
def packageStem : String := "__init__"

/-- A text whose backslashes are slashes. -/
def slashed (s : String) : String :=
  String.ofList (s.toList.map fun c => if c = '\\' then '/' else c)

/-- The name of the module in a file: its path with points for slashes and without an ending. -/
def moduleName? (path : String) : Except NamelessPath String :=
  let p := ofString (slashed path)
  if p.names = [] then .error ⟨p⟩
  else
    let last := stem p.name
    let parts := { p with names := p.names.dropLast ++ [last] }.parts
    let parts := if last = packageStem then parts.dropLast else parts
    .ok (".".intercalate (parts.filter fun n => n ≠ "." ∧ n ≠ ".."))

/-- Whether the last name of a file is that of a package's own file. -/
def isPackage (path : String) : Bool :=
  let base := String.ofList ((path.toList.reverse.takeWhile (· != '/')).reverse)
  extensionless base = packageStem
where
  /-- A name without its ending; leading points start no ending. -/
  extensionless (base : String) : String :=
    let cs := base.toList
    let points := cs.takeWhile (· == '.')
    let body := cs.drop points.length
    let ending := (body.reverse.takeWhile (· != '.')).length
    if ending < body.length then
      String.ofList (points ++ body.take (body.length - ending - 1))
    else base

/-- How the module names end that stand for a package's own file below another one. -/
def packageEnding : List Char := '.' :: packageStem.toList

/-- The name under which a file is read, and whether the file is the one of a package itself. -/
def moduleIdentity? (path : String) : Except NamelessPath (String × Bool) := do
  let name ← moduleName? path
  let cs := name.toList
  if packageEnding.isSuffixOf cs then
    return (String.ofList (cs.take (cs.length - packageEnding.length)), true)
  else return (name, isPackage path)

end Path

end SourceConventions
