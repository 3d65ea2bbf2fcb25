import SourceConventions.Rules.Naming

/-!
# The rule about required directories
-/

namespace SourceConventions

/-- The directories below a root, as paths relative to it. -/
structure DirectorySnapshot where
  root : String
  directories : List String
  deriving DecidableEq, Repr

/-- A text without slashes at its ends. -/
def withoutSlashes (s : String) : String :=
  let cs := s.toList.dropWhile (· == '/')
  String.ofList (cs.reverse.dropWhile (· == '/')).reverse

def DirectorySnapshot.has (t : DirectorySnapshot) (path : String) : Bool :=
  t.directories.contains (withoutSlashes path)

namespace Rules

def requiredDirectoryFinding (name : String) : Finding where
  rule := Rule.requiredDirectory.id
  severity := Rule.requiredDirectory.defaultSeverity
  path := name
  line := 0
  message := s!"Required directory '{name}/' is missing from the project root"
  column := none
  subject := some name
  demoted := false

def requiredDirectory (required : List String) (t : DirectorySnapshot) : List Finding :=
  ((required.map withoutSlashes).filter (!t.has ·)).map requiredDirectoryFinding

end Rules

end SourceConventions
