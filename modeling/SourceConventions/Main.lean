import SourceConventions.Command.Response

/-!
# The program

As much of the machine's files as a command can ask for is read into a file tree. The command
answers from that tree, and its answer is shown and written.
-/

namespace SourceConventions.Machine

open Command IO.FS

def entryAt (loc : Location) (name : String) : DirEntry := ⟨FileTree.locationText loc, name⟩

def locationOf (text : String) : Location := (Path.ofString text).names

/-- The target of a link that leads to nothing: a name that no entry can have. -/
def nowhere : Entry := .link "\x00"

/-- The type of an entry, a link not followed. -/
def type? (e : DirEntry) : IO (Option FileType) := do
  try return some (← e.path.symlinkMetadata).type catch _ => return none

/-- The type of what an entry leads to. -/
def targetType? (e : DirEntry) : IO (Option FileType) := do
  try return some (← e.path.metadata).type catch _ => return none

/-- The octets of a file; none of one that cannot be read. -/
def octetsOf (e : DirEntry) : IO Octets := do
  try return (← readBinFile e.path).toList catch _ => return []

/-- What a walk can see of an entry. Only source files have a content, and what is behind a link to
a directory or in a directory with an excluded name is not walked through. -/
partial def walked (e : DirEntry) : IO Entry := do
  match ← targetType? e with
  | none => return nowhere
  | some .dir =>
    let inner ← try e.path.readDir catch _ => pure #[]
    return .directory (← inner.toList.mapM fun i => return (i.fileName, ← below i))
  | some _ =>
    return .file (← if FileTree.isSourceName e.fileName then octetsOf e else pure [])
where
  below (e : DirEntry) : IO Entry := do
    if (← targetType? e) == some .dir
        && ((← type? e) == some .symlink || defaultExcludedNames.contains e.fileName) then
      return .directory []
    else walked e

def put (t : FileTree) (loc : Location) (e : Entry) : FileTree :=
  { t with top := Entry.put e loc t.top }

/-- Adds a directory, unless there is one. -/
def putDirectory (t : FileTree) (loc : Location) : FileTree :=
  if (t.top.at? loc).isSome then t else put t loc (.directory [])

/-- Adds what is on the way of names from a location, and tells where they lead to. -/
def reveal (t : FileTree) (loc : Location) : List String → IO (FileTree × Option Location)
  | [] => return (t, some loc)
  | "." :: rest => reveal t loc rest
  | ".." :: rest => reveal t loc.dropLast rest
  | name :: rest => do
    let e := entryAt loc name
    let isLink := (← type? e) == some .symlink
    match ← targetType? e with
    | none => return (if isLink then put t (loc ++ [name]) nowhere else t, none)
    | some type =>
      let real := locationOf (← realPath e.path).toString
      let t ← if type == .dir then pure (putDirectory t real)
        else pure (put t real (.file (← octetsOf e)))
      reveal (if isLink then put t (loc ++ [name]) (.link (FileTree.locationText real)) else t)
        real rest

/-- Adds what is on the way of a path, and tells where it leads to. -/
def revealPath (t : FileTree) (path : String) : IO (FileTree × Option Location) :=
  reveal t (if FileTree.isAbsolute path then [] else t.here) (FileTree.steps path)

/-- Adds the project files of a location and of those above it. -/
def revealProjectFiles (t : FileTree) (loc : Location) : IO FileTree :=
  (SettingsFile.upwards loc).foldlM
    (fun t loc => return (← reveal t loc [SettingsFile.projectFile]).1) t

/-- Adds a root with all below it. -/
def revealRoot (t : FileTree) (root : String) : IO FileTree := do
  match ← revealPath t root with
  | (t, none) => return t
  | (t, some []) => revealProjectFiles t []
  | (t, some loc) =>
    let t ← match t.top.at? loc with
      | some (.directory _) =>
        pure (put t loc (← walked (entryAt loc.dropLast (loc.getLastD ""))))
      | _ => pure t
    revealProjectFiles t loc

/-- The part of the machine's files that an invocation can ask for. -/
def treeFor (invocation : Invocation) : IO FileTree := do
  let t := FileTree.empty (locationOf (← IO.currentDir).toString)
  match invocation with
  | .help => return t
  | .rules config =>
    let t ← revealProjectFiles t t.here
    return (← revealPath t (config.getD ".")).1
  | .check o =>
    let t ← revealRoot t o.root
    let t := (← revealPath t (o.config.getD ".")).1
    return (← revealPath t (o.output.getD ".")).1

/-- The number of processors of the machine, as far as it can be told. -/
def processors : IO Nat := do
  try
    let lines := (← readFile "/proc/cpuinfo").splitOn "\n"
    return max 1 (lines.filter (·.startsWith "processor")).length
  catch _ => return 1

/-- What is told beside the output, in the order in which it arose. -/
def eventText (r : Response) (e : Run.Event) : String :=
  let logged (entries : List LogEntry) : String :=
    String.join ((LogEntry.atLeast r.level entries).map fun entry => entry.text ++ "\n")
  match e with
  | .notice n => (r.console.printed n).toOption.getD "" ++ logged (r.console.logged n)
  | .log entry => logged [entry]

def writtenTo : Invocation → Option String
  | .check o => o.output
  | _ => none

def deliver (invocation : Invocation) (r : Response) : IO Unit := do
  IO.eprint (String.join (r.events.map (eventText r)))
  IO.print (r.output ++ r.table)
  match r.mishap with
  | some m => IO.eprintln m.text
  | none =>
    match writtenTo invocation with
    | some path =>
      if r.exitCode != fatalCode then
        if let .ok octets := r.tree.octets path then writeBinFile path ⟨octets.toArray⟩
    | none => return

end SourceConventions.Machine

open SourceConventions in
def main (args : List String) : IO UInt32 := do
  let invocation := (Command.ofArguments args).toOption.getD .help
  let tree ← Machine.treeFor invocation
  let r := Command.respond ⟨tree, ← Machine.processors, id⟩ args
  Machine.deliver invocation r
  return r.exitCode.toUInt32
