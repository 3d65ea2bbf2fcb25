import SourceConventions.Settings.Setting
import SourceConventions.Toml.Scan

/-!
# Numbers, dates and times of a TOML document

Each reader tells what comes first in a text and what is left of it.
-/

namespace SourceConventions.Toml

open Number

/-- Digits behind a first one; an underscore may stand between two of them. -/
def digitTail (p : Char → Bool) : List Char → List Char × List Char
  | '_' :: c :: rest =>
    if p c then
      let (ds, rest) := digitTail p rest
      (c :: ds, rest)
    else ([], '_' :: c :: rest)
  | c :: rest =>
    if p c then
      let (ds, rest) := digitTail p rest
      (c :: ds, rest)
    else ([], c :: rest)
  | [] => ([], [])

/-- A row of digits without its underscores, empty if none comes first. -/
def digitRow (p : Char → Bool) : List Char → List Char × List Char
  | c :: rest =>
    if p c then
      let (ds, rest) := digitTail p rest
      (c :: ds, rest)
    else ([], c :: rest)
  | [] => ([], [])

def isOctal (c : Char) : Bool := '0' ≤ c && c ≤ '7'

def isBinary (c : Char) : Bool := c == '0' || c == '1'

def valueIn (base : Nat) (digits : List Char) : Nat :=
  digits.foldl (fun n c => n * base + Scan.hexValue c) 0

/-- An integer in a base other than ten, behind the letter of the base. -/
def basedInteger? : List Char → Option (Setting × List Char)
  | '0' :: letter :: rest =>
    let read (base : Nat) (p : Char → Bool) : Option (Setting × List Char) :=
      match digitRow p rest with
      | ([], _) => none
      | (digits, rest) => some (.int (valueIn base digits), rest)
    match letter with
    | 'x' => read 16 Scan.isHex
    | 'o' => read 8 isOctal
    | 'b' => read 2 isBinary
    | _ => none
  | _ => none

def sign (cs : List Char) : Bool × List Char :=
  match cs with
  | '-' :: rest => (true, rest)
  | '+' :: rest => (false, rest)
  | _ => (false, cs)

def wholePart (cs : List Char) : List Char × List Char :=
  match cs with
  | '0' :: rest => (['0'], rest)
  | _ => digitRow Char.isDigit cs

/-- The digits behind a point. -/
def fractionPart (cs : List Char) : List Char × List Char :=
  match cs with
  | '.' :: rest =>
    match digitRow Char.isDigit rest with
    | ([], _) => ([], cs)
    | row => row
  | _ => ([], cs)

/-- The exponent behind its letter. -/
def exponentPart? (cs : List Char) : Option (Int × List Char) :=
  match cs with
  | letter :: rest =>
    if letter == 'e' || letter == 'E' then
      let (negative, rest) := sign rest
      match digitRow Char.isDigit rest with
      | ([], _) => none
      | (digits, rest) =>
        let n : Int := valueIn 10 digits
        some (if negative then -n else n, rest)
    else none
  | [] => none

/-- A decimal number. An integer may have too many digits. -/
def decimal? (cs : List Char) : Option (Except Complaint Setting × List Char) :=
  let (negative, body) := sign cs
  match wholePart body with
  | ([], _) => none
  | (whole, rest) =>
    let (fraction, rest) := fractionPart rest
    match fraction, exponentPart? rest with
    | [], none =>
      if Numeral.maxDigits < whole.length then some (.error (.tooManyDigits whole.length), rest)
      else
        let n : Int := valueIn 10 whole
        some (.ok (.int (if negative then -n else n)), rest)
    | _, exponent =>
      let (e, rest) := exponent.getD (0, rest)
      let digits := valueIn 10 (whole ++ fraction)
      some (.ok (.real (Binary64.ofDecimal negative digits (e - fraction.length))), rest)

def special? (cs : List Char) : Option (Setting × List Char) :=
  let (negative, body) := sign cs
  match body with
  | 'i' :: 'n' :: 'f' :: rest => some (.real (.infinite negative), rest)
  | 'n' :: 'a' :: 'n' :: rest => some (.real .undefined, rest)
  | _ => none

/-- A number of exactly `width` digits that is between two bounds. -/
def field? (width low high : Nat) (cs : List Char) : Option (Nat × List Char) :=
  let digits := cs.take width
  let n := valueIn 10 digits
  if digits.length = width ∧ digits.all Char.isDigit ∧ low ≤ n ∧ n ≤ high then
    some (n, cs.drop width)
  else none

def mark? (c : Char) : List Char → Option (List Char)
  | d :: rest => if d = c then some rest else none
  | [] => none

def date? (cs : List Char) : Option (Date × List Char) := do
  let (year, rest) ← field? 4 0 9999 cs
  let (month, rest) ← field? 2 1 12 (← mark? '-' rest)
  let (day, rest) ← field? 2 1 31 (← mark? '-' rest)
  return (⟨year, month, day⟩, rest)

/-- Microseconds of the digits behind a point; digits behind the sixth are left out. -/
def microseconds (digits : List Char) : Nat :=
  let six := digits.take 6
  valueIn 10 (six ++ List.replicate (6 - six.length) '0')

def time? (cs : List Char) : Option (Time × List Char) := do
  let (hour, rest) ← field? 2 0 23 cs
  let (minute, rest) ← field? 2 0 59 (← mark? ':' rest)
  let (second, rest) ← field? 2 0 59 (← mark? ':' rest)
  match rest with
  | '.' :: later =>
    let digits := later.takeWhile Char.isDigit
    if digits.isEmpty then return (⟨hour, minute, second, 0⟩, rest)
    else return (⟨hour, minute, second, microseconds digits⟩, later.drop digits.length)
  | _ => return (⟨hour, minute, second, 0⟩, rest)

/-- The distance from universal time in minutes. -/
def offset? (cs : List Char) : Option (Int × List Char) := do
  match cs with
  | 'Z' :: rest | 'z' :: rest => return (0, rest)
  | c :: rest =>
    guard (c = '+' ∨ c = '-')
    let (hours, rest) ← field? 2 0 23 rest
    let (minutes, rest) ← field? 2 0 59 (← mark? ':' rest)
    let distance : Int := hours * 60 + minutes
    return (if c = '-' then -distance else distance, rest)
  | [] => none

/-- A time behind a date, with its distance from universal time. -/
def timeBehindDate? (cs : List Char) : Option (Time × Option Int × List Char) := do
  match cs with
  | 'T' :: rest | 't' :: rest | ' ' :: rest =>
    let (time, rest) ← time? rest
    match offset? rest with
    | some (offset, rest) => return (time, some offset, rest)
    | none => return (time, none, rest)
  | _ => none

def isLeapYear (year : Nat) : Bool := year % 4 = 0 && (year % 100 ≠ 0 || year % 400 = 0)

def daysIn (year month : Nat) : Nat :=
  match month with
  | 2 => if isLeapYear year then 29 else 28
  | 4 | 6 | 9 | 11 => 30
  | _ => 31

/-- Whether a calendar has the date. -/
def Date.exists (d : Date) : Bool := 1 ≤ d.year && d.day ≤ daysIn d.year d.month

def dateTime? (cs : List Char) : Option (Except Complaint Setting × List Char) := do
  let (date, rest) ← date? cs
  let (value, rest) :=
    match timeBehindDate? rest with
    | some (time, offset, rest) => (Setting.dateTime date time offset, rest)
    | none => (Setting.date date, rest)
  return (if Date.exists date then .ok value else .error .invalidDate, rest)

end SourceConventions.Toml
