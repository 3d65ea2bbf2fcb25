import SourceConventions.Json.Basic

/-!
# Reading JSON text

The whole text must be one value. A number with a fraction or an exponent is real, any other an
integer; words stand for the reals that are infinite or no number. A pair of surrogate escapes gives
one character.
-/

namespace SourceConventions.Json

open Number

def isSpace (c : Char) : Bool := c == ' ' || c == '\t' || c == '\n' || c == '\r'

def skipSpace (cs : List Char) : List Char := cs.dropWhile isSpace

def hexValue? (c : Char) : Option Nat :=
  if '0' ≤ c ∧ c ≤ '9' then some (c.toNat - 48)
  else if 'a' ≤ c ∧ c ≤ 'f' then some (c.toNat - 87)
  else if 'A' ≤ c ∧ c ≤ 'F' then some (c.toNat - 55)
  else none

def unit? : List Char → Option (Nat × List Char)
  | a :: b :: c :: d :: rest => do
    let w ← hexValue? a
    let x ← hexValue? b
    let y ← hexValue? c
    let z ← hexValue? d
    some (((w * 16 + x) * 16 + y) * 16 + z, rest)
  | _ => none

def isHighUnit (n : Nat) : Bool := 0xd800 ≤ n && n < 0xdc00

def isLowUnit (n : Nat) : Bool := 0xdc00 ≤ n && n < 0xe000

/-- The character written by one or two unit escapes, from behind the first `\u`. -/
def escapedChar? (cs : List Char) : Option (Char × List Char) := do
  let (high, rest) ← unit? cs
  if isHighUnit high then
    match rest with
    | '\\' :: 'u' :: more => do
      let (low, rest) ← unit? more
      if isLowUnit low then
        some (Char.ofNat (0x10000 + (high - 0xd800) * 0x400 + (low - 0xdc00)), rest)
      else none
    | _ => none
  else if isLowUnit high then none
  else some (Char.ofNat high, rest)

/-- The characters up to the closing quote and what follows it. -/
def stringBody : Nat → List Char → Option (List Char × List Char)
  | 0, _ => none
  | fuel + 1, cs =>
    match cs with
    | [] => none
    | '"' :: rest => some ([], rest)
    | '\\' :: c :: rest => do
      let (decoded, rest) ←
        match c with
        | '"' => some ('"', rest)
        | '\\' => some ('\\', rest)
        | '/' => some ('/', rest)
        | 'n' => some ('\n', rest)
        | 'r' => some ('\r', rest)
        | 't' => some ('\t', rest)
        | 'b' => some ('\x08', rest)
        | 'f' => some ('\x0c', rest)
        | 'u' => escapedChar? rest
        | _ => none
      let (body, rest) ← stringBody fuel rest
      some (decoded :: body, rest)
    | c :: rest =>
      if c < ' ' then none
      else do
        let (body, rest) ← stringBody fuel rest
        some (c :: body, rest)

def natOfDigits (cs : List Char) : Nat :=
  cs.foldl (fun n c => n * 10 + (c.toNat - 48)) 0

def fraction? (cs : List Char) : Option (List Char × List Char) :=
  match cs with
  | '.' :: rest =>
    match rest.takeWhile Char.isDigit with
    | [] => none
    | digits => some (digits, rest.dropWhile Char.isDigit)
  | _ => none

def exponent? (cs : List Char) : Option (Int × List Char) :=
  match cs with
  | e :: rest =>
    if e == 'e' || e == 'E' then
      let (negative, rest) :=
        match rest with
        | '-' :: more => (true, more)
        | '+' :: more => (false, more)
        | _ => (false, rest)
      match rest.takeWhile Char.isDigit with
      | [] => none
      | digits =>
        let n : Int := natOfDigits digits
        some (if negative then -n else n, rest.dropWhile Char.isDigit)
    else none
  | [] => none

def number? (cs : List Char) : Option (Json × List Char) :=
  let (negative, cs) :=
    match cs with
    | '-' :: rest => (true, rest)
    | _ => (false, cs)
  match cs.takeWhile Char.isDigit with
  | [] => none
  | whole =>
    if whole.length ≠ 1 ∧ whole.head? = some '0' then none
    else
      let rest := cs.dropWhile Char.isDigit
      let (places, rest, isReal) :=
        match fraction? rest with
        | some (digits, rest) => (digits, rest, true)
        | none => ([], rest, false)
      let (exponent, rest, isReal) :=
        match exponent? rest with
        | some (e, rest) => (e, rest, true)
        | none => (0, rest, isReal)
      if isReal then
        some (.real (.ofDecimal negative (natOfDigits (whole ++ places))
          (exponent - places.length)), rest)
      else
        let n : Int := natOfDigits whole
        some (.int (if negative then -n else n), rest)

def word? (w : String) (v : Json) (cs : List Char) : Option (Json × List Char) :=
  let letters := w.toList
  if letters.isPrefixOf cs then some (v, cs.drop letters.length) else none

/-- Entries read by `entry`, up to the closing bracket, from behind the first entry's start. -/
def entries {α : Type} (entry : List Char → Option (α × List Char)) (closing : Char) :
    Nat → List Char → Option (List α × List Char)
  | 0, _ => none
  | fuel + 1, cs => do
    let (first, rest) ← entry (skipSpace cs)
    match skipSpace rest with
    | c :: rest =>
      if c == closing then some ([first], rest)
      else if c == ',' then do
        let (others, rest) ← entries entry closing fuel rest
        some (first :: others, rest)
      else none
    | [] => none

def field (value : List Char → Option (Json × List Char)) :
    List Char → Option ((String × Json) × List Char)
  | '"' :: rest => do
    let (key, rest) ← stringBody (rest.length + 1) rest
    match skipSpace rest with
    | ':' :: rest => do
      let (v, rest) ← value (skipSpace rest)
      some ((String.ofList key, v), rest)
    | _ => none
  | _ => none

def value : Nat → List Char → Option (Json × List Char)
  | 0, _ => none
  | fuel + 1, cs =>
    match cs with
    | '"' :: rest => do
      let (body, rest) ← stringBody (rest.length + 1) rest
      some (.str (String.ofList body), rest)
    | '[' :: rest =>
      match skipSpace rest with
      | ']' :: rest => some (.arr [], rest)
      | _ => do
        let (items, rest) ← entries (value fuel) ']' (rest.length + 1) rest
        some (.arr items, rest)
    | '\x7b' :: rest =>
      match skipSpace rest with
      | '\x7d' :: rest => some (.obj [], rest)
      | _ => do
        let (fields, rest) ← entries (field (value fuel)) '\x7d' (rest.length + 1) rest
        some (.obj fields, rest)
    | 'n' :: _ => word? "null" .null cs
    | 't' :: _ => word? "true" (.bool true) cs
    | 'f' :: _ => word? "false" (.bool false) cs
    | 'I' :: _ => word? "Infinity" (.real (.infinite false)) cs
    | '-' :: 'I' :: _ => word? "-Infinity" (.real (.infinite true)) cs
    | 'N' :: _ => word? "NaN" (.real .undefined) cs
    | _ => number? cs

/-- The value of a text that holds one value and blanks around it. -/
def ofChars? (cs : List Char) : Option Json := do
  let (v, rest) ← value (cs.length + 1) (skipSpace cs)
  if (skipSpace rest).isEmpty then some v else none

def ofString? (s : String) : Option Json := ofChars? s.toList

end SourceConventions.Json
