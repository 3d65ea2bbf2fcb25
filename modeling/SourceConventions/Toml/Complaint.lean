import SourceConventions.Number.Value
import SourceConventions.Text.Quoted

/-!
# What can be wrong with a TOML document
-/

namespace SourceConventions.Toml

/-- A dotted key. -/
abbrev Key := List String

/-- The parts of a key between brackets; a single part has a comma behind it. -/
def keyText (key : Key) : String :=
  match key with
  | [part] => s!"({Text.quotedString part},)"
  | parts => "(" ++ ", ".intercalate (parts.map Text.quotedString) ++ ")"

inductive Complaint where
  | invalidStatement
  | unfinishedStatement
  | invalidKey
  | missingEquals
  | missingBracket
  | missingBrackets
  | declaredTwice (key : Key)
  | redefined (key : Key)
  | frozen (key : Key)
  | overwritten
  | repeatedKey (part : String)
  | invalidValue
  | invalidDate
  | unclosedArray
  | unclosedTable
  | unterminated
  | missingQuotes (quotes : String)
  | illegalCharacter (c : Char)
  | invalidCharacter (c : Char)
  | invalidEscape
  | invalidHex
  | notScalar
  /-- A decimal integer with that many digits is not read. -/
  | tooManyDigits (digits : Nat)
  deriving DecidableEq, Repr

def charText (c : Char) : String := Text.quotedString (String.singleton c)

def Complaint.text : Complaint → String
  | .invalidStatement => "Invalid statement"
  | .unfinishedStatement => "Expected newline or end of document after a statement"
  | .invalidKey => "Invalid initial character for a key part"
  | .missingEquals => "Expected '=' after a key in a key/value pair"
  | .missingBracket => "Expected ']' at the end of a table declaration"
  | .missingBrackets => "Expected ']]' at the end of an array declaration"
  | .declaredTwice key => s!"Cannot declare {keyText key} twice"
  | .redefined key => s!"Cannot redefine namespace {keyText key}"
  | .frozen key => s!"Cannot mutate immutable namespace {keyText key}"
  | .overwritten => "Cannot overwrite a value"
  | .repeatedKey part => s!"Duplicate inline table key {Text.quotedString part}"
  | .invalidValue => "Invalid value"
  | .invalidDate => "Invalid date or datetime"
  | .unclosedArray => "Unclosed array"
  | .unclosedTable => "Unclosed inline table"
  | .unterminated => "Unterminated string"
  | .missingQuotes quotes => s!"Expected {Text.quotedString quotes}"
  | .illegalCharacter c => s!"Illegal character {charText c}"
  | .invalidCharacter c => s!"Found invalid character {charText c}"
  | .invalidEscape => "Unescaped '\\' in a string"
  | .invalidHex => "Invalid hex value"
  | .notScalar => "Escaped character is not a Unicode scalar value"
  | .tooManyDigits digits =>
    s!"Exceeds the limit ({Numeral.maxDigits} digits) for integer string conversion: "
      ++ s!"value has {digits} digits; use sys.set_int_max_str_digits() to increase the limit"

/-- Where a document is wrong. -/
inductive Place where
  | ending
  | at (line column : Nat)
  deriving DecidableEq, Repr

def Place.text : Place → String
  | .ending => "at end of document"
  | .at line column => s!"at line {line}, column {column}"

structure Fault where
  complaint : Complaint
  place : Place
  deriving DecidableEq, Repr

def Fault.text (f : Fault) : String := s!"{f.complaint.text} ({f.place.text})"

/-- The place in a document before which `before` stands and behind which `rest`. -/
def placeOf (before rest : List Char) : Place :=
  match rest with
  | [] => .ending
  | _ =>
    let column := (before.reverse.takeWhile (· != '\n')).length + 1
    .at (before.count '\n' + 1) column

end SourceConventions.Toml
