import SourceConventions.Number.Value
import SourceConventions.Text.Quoted

/-!
# Values of a settings file
-/

namespace SourceConventions

structure Date where
  year : Nat
  month : Nat
  day : Nat
  deriving DecidableEq, Repr, Inhabited

structure Time where
  hour : Nat
  minute : Nat
  second : Nat
  microsecond : Nat
  deriving DecidableEq, Repr, Inhabited

open Number in
inductive Setting where
  | null
  | bool (value : Bool)
  | int (value : Int)
  | real (value : Binary64)
  | text (value : String)
  | date (value : Date)
  | time (value : Time)
  /-- `offset` is the distance from universal time in minutes. -/
  | dateTime (date : Date) (time : Time) (offset : Option Int)
  | list (items : List Setting)
  | table (fields : List (String × Setting))
  deriving Repr, Inhabited

abbrev SettingTable := List (String × Setting)

def SettingTable.get? (t : SettingTable) (key : String) : Option Setting :=
  (t.find? (·.1 == key)).map (·.2)

def SettingTable.keys (t : SettingTable) : List String := t.map (·.1)

def padded (width n : Nat) : String :=
  let digits := Nat.toDigits 10 n
  String.ofList (List.replicate (width - digits.length) '0' ++ digits)

def Date.iso (d : Date) : String := s!"{padded 4 d.year}-{padded 2 d.month}-{padded 2 d.day}"

def Time.iso (t : Time) : String :=
  let base := s!"{padded 2 t.hour}:{padded 2 t.minute}:{padded 2 t.second}"
  if t.microsecond = 0 then base else s!"{base}.{padded 6 t.microsecond}"

def offsetText : Option Int → String
  | none => ""
  | some m =>
    let sign := if m < 0 then "-" else "+"
    s!"{sign}{padded 2 (m.natAbs / 60)}:{padded 2 (m.natAbs % 60)}"

namespace Setting

def dateTimeText (separator : String) (d : Date) (t : Time) (offset : Option Int) : String :=
  s!"{d.iso}{separator}{t.iso}{offsetText offset}"

/-- The fields of a time, those at the end left out that are zero. -/
def timeFields (t : Time) : List Nat :=
  if t.microsecond ≠ 0 then [t.hour, t.minute, t.second, t.microsecond]
  else if t.second ≠ 0 then [t.hour, t.minute, t.second]
  else [t.hour, t.minute]

def commaSeparated (parts : List String) : String := ", ".intercalate parts

def offsetFields : Option Int → List String
  | none => []
  | some 0 => ["tzinfo=datetime.timezone.utc"]
  | some m =>
    let distance :=
      if m < 0 then s!"days=-1, seconds={m * 60 + 86400}" else s!"seconds={m * 60}"
    [s!"tzinfo=datetime.timezone(datetime.timedelta({distance}))"]

mutual

/-- The text of a value inside a list or table. -/
def quoted : Setting → String
  | .null => "None"
  | .bool b => if b then "True" else "False"
  | .int n => toString n
  | .real x => String.ofList (Number.realLayout.text x)
  | .text s => Text.quotedString s
  | .date d => s!"datetime.date({d.year}, {d.month}, {d.day})"
  | .time t => s!"datetime.time({commaSeparated ((timeFields t).map toString)})"
  | .dateTime d t offset =>
    let fields := ([d.year, d.month, d.day] ++ timeFields t).map toString ++ offsetFields offset
    s!"datetime.datetime({commaSeparated fields})"
  | .list items => s!"[{commaSeparated (quotedItems items)}]"
  | .table fields => "\x7b" ++ commaSeparated (quotedFields fields) ++ "\x7d"

def quotedItems : List Setting → List String
  | [] => []
  | v :: rest => quoted v :: quotedItems rest

def quotedFields : List (String × Setting) → List String
  | [] => []
  | (k, v) :: rest => s!"{Text.quotedString k}: {quoted v}" :: quotedFields rest

end

mutual

/-- Whether a value holds an integer with too many digits to be written. -/
def holdsLongInteger : Setting → Bool
  | .int n => (Numeral.integerText? n).isNone
  | .list items => holdsLongItem items
  | .table fields => holdsLongField fields
  | _ => false

def holdsLongItem : List Setting → Bool
  | [] => false
  | v :: rest => holdsLongInteger v || holdsLongItem rest

def holdsLongField : List (String × Setting) → Bool
  | [] => false
  | (_, v) :: rest => holdsLongInteger v || holdsLongField rest

end

/-- The text of a value that stands alone. -/
def shown : Setting → String
  | .text s => s
  | .date d => d.iso
  | .time t => t.iso
  | .dateTime d t offset => dateTimeText " " d t offset
  | v => v.quoted

end Setting

end SourceConventions
