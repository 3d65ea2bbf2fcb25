import SourceConventions.Toml.Scalar

/-!
# Values of a TOML document

Arrays and inline tables are closed for good once they have been read: no key below one of them can
be set later.
-/

namespace SourceConventions.Toml

/-- A table with the value of a key put in its place, or at the end if the key is new. -/
def put (key : String) (v : Setting) : SettingTable → SettingTable
  | [] => [(key, v)]
  | (k, w) :: rest => if k = key then (k, v) :: rest else (k, w) :: put key v rest

/-- What a change of a table has come to; `none` when a value is in the way. -/
abbrev Change := SettingTable → Option SettingTable

/-- Changes the last element of a list if it is a table. -/
def changeLast (change : Change) (items : List Setting) : Option (List Setting) :=
  match items.getLast? with
  | some (.table t) => (change t).map fun t => items.dropLast ++ [.table t]
  | _ => none

/-- Changes the table under a path. Tables that are missing are made, and if `intoLists` holds, a
list stands for its last element. -/
def changeAt (intoLists : Bool) : Key → Change → Change
  | [], change => change
  | k :: rest, change => fun t =>
    match t.get? k with
    | none => (changeAt intoLists rest change []).map fun inner => put k (.table inner) t
    | some (.table inner) =>
      (changeAt intoLists rest change inner).map fun inner => put k (.table inner) t
    | some (.list items) =>
      if intoLists then
        (changeLast (changeAt intoLists rest change) items).map fun items => put k (.list items) t
      else none
    | some _ => none

/-- Whether a key or one above it is among those given. -/
def isBelow (key : Key) (closed : List Key) : Bool := closed.any fun k => k.isPrefixOf key

def isContainer : Setting → Bool
  | .list _ | .table _ => true
  | _ => false

/-- An inline table that is being read, with its keys that are closed. -/
structure InlineTable where
  table : SettingTable
  closed : List Key

/-- Adds a key to an inline table. -/
def addInline (key : Key) (v : Setting) (t : InlineTable) : Scan InlineTable := do
  let stem := key.getLastD ""
  if isBelow key t.closed then Scan.stop (.frozen key)
  else
    match changeAt false key.dropLast some t.table with
    | none => Scan.stop .overwritten
    | some _ =>
      let add : Change := fun inner => if inner.keys.contains stem then none else some (put stem v inner)
      match changeAt false key.dropLast add t.table with
      | none => Scan.stop (.repeatedKey stem)
      | some table => return ⟨table, if isContainer v then key :: t.closed else t.closed⟩

/-- A value of one piece. -/
def scalar : Scan Setting := do
  let cs ← get
  match dateTime? cs with
  | some (.ok v, rest) =>
    set rest
    return v
  | some (.error c, _) => Scan.stop c
  | none =>
    match time? cs with
    | some (t, rest) =>
      set rest
      return .time t
    | none =>
      match (basedInteger? cs).map (fun r => (Except.ok r.1, r.2)) <|> decimal? cs with
      | some (.ok v, rest) =>
        set rest
        return v
      | some (.error c, _) => Scan.stop c
      | none =>
        match special? cs with
        | some (v, rest) =>
          set rest
          return v
        | none => Scan.stop .invalidValue

mutual

/-- A value; `fuel` bounds how deep it is nested and how long its lists are. -/
def value : Nat → Scan Setting
  | 0 => Scan.stop .invalidValue
  | fuel + 1 => do
    if ← Scan.sees "\"\"\"" then return .text (← Scan.textOfLines false)
    else if ← Scan.takes "\"" then return .text (← Scan.basic false)
    else if ← Scan.sees "'''" then return .text (← Scan.textOfLines true)
    else if ← Scan.takes "'" then return .text (← Scan.literal "'" Scan.isBarred)
    else if ← Scan.takes "true" then return .bool true
    else if ← Scan.takes "false" then return .bool false
    else if ← Scan.takes "[" then
      Scan.skipFilling
      if ← Scan.takes "]" then return .list []
      else return .list (← items fuel)
    else if ← Scan.takes "\x7b" then
      Scan.spaces
      if ← Scan.takes "\x7d" then return .table []
      else return .table (← fields fuel ⟨[], []⟩)
    else scalar

/-- The elements of an array and its closing bracket. -/
def items : Nat → Scan (List Setting)
  | 0 => Scan.stop .unclosedArray
  | fuel + 1 => do
    let v ← value fuel
    Scan.skipFilling
    if ← Scan.takes "]" then return [v]
    else if ← Scan.takes "," then
      Scan.skipFilling
      if ← Scan.takes "]" then return [v]
      else return v :: (← items fuel)
    else Scan.stop .unclosedArray

/-- A key and its value. -/
def pair : Nat → Scan (Key × Setting)
  | 0 => Scan.stop .invalidValue
  | fuel + 1 => do
    let key ← Scan.key
    if ← Scan.takes "=" then
      Scan.spaces
      return (key, ← value fuel)
    else Scan.stop .missingEquals

/-- The fields of an inline table and its closing brace. -/
def fields : Nat → InlineTable → Scan SettingTable
  | 0, _ => Scan.stop .unclosedTable
  | fuel + 1, t => do
    let (key, v) ← pair fuel
    let t ← addInline key v t
    Scan.spaces
    if ← Scan.takes "\x7d" then return t.table
    else if ← Scan.takes "," then
      Scan.spaces
      fields fuel t
    else Scan.stop .unclosedTable

end

/-- More than the rounds that reading a text can take. -/
def fuelFor (cs : List Char) : Nat := 3 * cs.length + 3

end SourceConventions.Toml
