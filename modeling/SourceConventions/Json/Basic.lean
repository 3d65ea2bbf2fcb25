import SourceConventions.Number.Value

/-!
# JSON values and their text

Text is ASCII: a character outside `' '` to `'~'` is written by its UTF-16 units. A layout without
an indent puts everything on one line.
-/

namespace SourceConventions

open Number in
inductive Json where
  | null
  | bool (value : Bool)
  | int (value : Int)
  | real (value : Binary64)
  | str (value : String)
  | arr (items : List Json)
  | obj (fields : List (String × Json))
  deriving Repr, Inhabited

namespace Json

open Number

/-- The value under a key; of several the last one counts. -/
def get? (key : String) : Json → Option Json
  | .obj fields => (fields.reverse.find? (·.1 == key)).map (·.2)
  | _ => none

def hexDigit (n : Nat) : Char := Nat.digitChar n

def unitEscape (n : Nat) : List Char :=
  ['\\', 'u', hexDigit (n / 4096 % 16), hexDigit (n / 256 % 16), hexDigit (n / 16 % 16),
    hexDigit (n % 16)]

def escapeChar (c : Char) : List Char :=
  match c with
  | '"' => ['\\', '"']
  | '\\' => ['\\', '\\']
  | '\n' => ['\\', 'n']
  | '\r' => ['\\', 'r']
  | '\t' => ['\\', 't']
  | '\x08' => ['\\', 'b']
  | '\x0c' => ['\\', 'f']
  | c =>
    if ' ' ≤ c ∧ c ≤ '~' then [c]
    else if c.toNat < 0x10000 then unitEscape c.toNat
    else
      let n := c.toNat - 0x10000
      unitEscape (0xd800 + n / 0x400) ++ unitEscape (0xdc00 + n % 0x400)

def quote (cs : List Char) : List Char :=
  '"' :: cs.flatMap escapeChar ++ ['"']

def intText (n : Int) : List Char :=
  let digits := Nat.toDigits 10 n.natAbs
  if n < 0 then '-' :: digits else digits

/-- A line break before an entry at the given depth, when the layout has an indent. -/
def lineBreak (indent : Option Nat) (depth : Nat) : List Char :=
  match indent with
  | none => []
  | some n => '\n' :: List.replicate (n * depth) ' '

/-- What stands between two entries at the given depth. -/
def entryBreak (indent : Option Nat) (depth : Nat) : List Char :=
  match indent with
  | none => [',', ' ']
  | some _ => ',' :: lineBreak indent depth

/-- Entries between brackets; nothing stands between the brackets when there are none. -/
def enclose (indent : Option Nat) (depth : Nat) (opening closing : Char)
    (entries : List (List Char)) : List Char :=
  match entries with
  | [] => [opening, closing]
  | first :: rest =>
    opening :: lineBreak indent (depth + 1) ++ first
      ++ rest.flatMap (fun e => entryBreak indent (depth + 1) ++ e)
      ++ lineBreak indent depth ++ [closing]

mutual

def chars (indent : Option Nat) (depth : Nat) : Json → List Char
  | .null => ['n', 'u', 'l', 'l']
  | .bool true => ['t', 'r', 'u', 'e']
  | .bool false => ['f', 'a', 'l', 's', 'e']
  | .int n => intText n
  | .real x => realLayout.text x
  | .str s => quote s.toList
  | .arr items => enclose indent depth '[' ']' (itemChars indent (depth + 1) items)
  | .obj fields => enclose indent depth '\x7b' '\x7d' (fieldChars indent (depth + 1) fields)

def itemChars (indent : Option Nat) (depth : Nat) : List Json → List (List Char)
  | [] => []
  | v :: rest => chars indent depth v :: itemChars indent depth rest

def fieldChars (indent : Option Nat) (depth : Nat) : List (String × Json) → List (List Char)
  | [] => []
  | (k, v) :: rest =>
    (quote k.toList ++ ':' :: ' ' :: chars indent depth v) :: fieldChars indent depth rest

end

/-- The text of a value; `indent` is the number of spaces a level is moved in by. -/
def text (indent : Option Nat) (v : Json) : String :=
  String.ofList (chars indent 0 v)

end Json

end SourceConventions
