import SourceConventions.Toml.Value

/-!
# TOML documents

A document is read line by line into a table. Beside the table go the keys that can no longer be
declared and those that can no longer be changed.
-/

namespace SourceConventions.Toml

/-- A document that is being read. -/
structure Draft where
  table : SettingTable
  /-- The table to which keys belong. -/
  header : Key
  /-- Keys that no header may declare. -/
  declared : List Key
  /-- Keys that count as declared from the next header on. -/
  pending : List Key
  /-- Keys of arrays and inline tables. -/
  closed : List Key

namespace Draft

def blank : Draft := ⟨[], [], [], [], []⟩

def isDeclared (d : Draft) (key : Key) : Bool := d.declared.contains key

def isClosed (d : Draft) (key : Key) : Bool := isBelow key d.closed

def settlePending (d : Draft) : Draft :=
  { d with declared := d.pending ++ d.declared, pending := [] }

/-- Forgets what is known of a key and of those below it. -/
def forget (d : Draft) (key : Key) : Draft :=
  { d with
    declared := d.declared.filter fun k => !key.isPrefixOf k
    closed := d.closed.filter fun k => !key.isPrefixOf k }

/-- Adds an empty table to a list. -/
def appendTable (stem : String) : Change := fun t =>
  match t.get? stem with
  | none => some (put stem (.list [.table []]) t)
  | some (.list items) => some (put stem (.list (items ++ [.table []])) t)
  | some _ => none

/-- The keys between a header and the last part of a key below it. -/
def between (header key : Key) : List Key :=
  (List.range (key.length - 1)).map fun i => header ++ key.take (i + 1)

end Draft

/-- A header that opens a table, behind its bracket. -/
def tableHeader (d : Draft) : Scan Draft := do
  Scan.spaces
  let key ← Scan.key
  if d.isDeclared key || d.isClosed key then Scan.stop (.declaredTwice key)
  else
    match changeAt true key some d.table with
    | none => Scan.stop .overwritten
    | some table =>
      if ← Scan.takes "]" then
        return { d with table, header := key, declared := key :: d.declared }
      else Scan.stop .missingBracket

/-- A header that adds a table to a list, behind its brackets. -/
def listHeader (d : Draft) : Scan Draft := do
  Scan.spaces
  let key ← Scan.key
  if d.isClosed key then Scan.stop (.frozen key)
  else
    match changeAt true key.dropLast (Draft.appendTable (key.getLastD "")) d.table with
    | none => Scan.stop .overwritten
    | some table =>
      if ← Scan.takes "]]" then
        let d := d.forget key
        return { d with table, header := key, declared := key :: d.declared }
      else Scan.stop .missingBrackets

/-- Puts the value of a key into the table that is open. -/
def assign (d : Draft) (key : Key) (v : Setting) : Scan Draft := do
  let above := d.header ++ key.dropLast
  let stem := key.getLastD ""
  match (Draft.between d.header key).find? d.isDeclared with
  | some k => Scan.stop (.redefined k)
  | none =>
    if d.isClosed above then Scan.stop (.frozen above)
    else
      let add : Change := fun inner => if inner.keys.contains stem then none else some (put stem v inner)
      match changeAt true above add d.table with
      | none => Scan.stop .overwritten
      | some table =>
        return { d with
          table
          pending := Draft.between d.header key ++ d.pending
          closed := if isContainer v then (d.header ++ key) :: d.closed else d.closed }

/-- What stands on a line in front of its comment. -/
def statement (d : Draft) : Scan Draft := do
  match ← Scan.head? with
  | some '#' => return d
  | some '[' =>
    Scan.drop 1
    let d := d.settlePending
    let d ← if ← Scan.takes "[" then listHeader d else tableHeader d
    Scan.spaces
    return d
  | some c =>
    if Scan.isKeyStart c then
      let (key, v) ← pair (fuelFor (← get))
      let d ← assign d key v
      Scan.spaces
      return d
    else Scan.stop .invalidStatement
  | none => return d

/-- The lines of a document; every round takes a line end or is the last one. -/
def statements : Nat → Draft → Scan Draft
  | 0, d => return d
  | fuel + 1, d => do
    Scan.spaces
    if (← Scan.head?).isNone then return d
    else if ← Scan.takes "\n" then statements fuel d
    else
      let d ← statement d
      Scan.comment
      match ← Scan.head? with
      | none => return d
      | some '\n' =>
        Scan.drop 1
        statements fuel d
      | some _ => Scan.stop .unfinishedStatement

/-- A text in which every line ends in a line feed alone. -/
def plainLineEnds : List Char → List Char
  | '\r' :: '\n' :: rest => '\n' :: plainLineEnds rest
  | c :: rest => c :: plainLineEnds rest
  | [] => []

/-- The table that a document stands for. -/
def read (text : List Char) : Except Fault SettingTable :=
  let cs := plainLineEnds text
  match statements (cs.length + 1) .blank cs with
  | .ok (d, _) => .ok d.table
  | .error stop =>
    .error ⟨stop.complaint, placeOf (cs.take (cs.length - stop.rest.length)) stop.rest⟩

end SourceConventions.Toml
