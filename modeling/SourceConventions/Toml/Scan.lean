import SourceConventions.Toml.Complaint

/-!
# Scanning a TOML document: blanks, comments, strings and keys

A scan takes characters from the front of what is left of a document. One that stops tells what is
wrong and what was left when it was seen.
-/

namespace SourceConventions.Toml

structure Stop where
  complaint : Complaint
  rest : List Char

abbrev Scan := StateT (List Char) (Except Stop)

namespace Scan

variable {α : Type}

def stopAt (c : Complaint) (rest : List Char) : Scan α := fun _ => .error ⟨c, rest⟩

def stop (c : Complaint) : Scan α := fun rest => .error ⟨c, rest⟩

def head? : Scan (Option Char) := return (← get).head?

def skip (p : Char → Bool) : Scan Unit := modify (List.dropWhile p)

def drop (n : Nat) : Scan Unit := modify (List.drop n)

/-- Whether a text comes next. -/
def sees (s : String) : Scan Bool := return s.toList.isPrefixOf (← get)

/-- Takes a text if it comes next. -/
def takes (s : String) : Scan Bool := do
  if ← sees s then drop s.length; return true
  else return false

def isSpace (c : Char) : Bool := c == ' ' || c == '\t'

def isSpaceOrLine (c : Char) : Bool := isSpace c || c == '\n'

def spaces : Scan Unit := skip isSpace

def isControl (c : Char) : Bool := c.toNat < 0x20 || c.toNat == 0x7f

/-- Characters that a text of one line does not hold. -/
def isBarred (c : Char) : Bool := isControl c && c != '\t'

/-- Characters that a text of several lines does not hold. -/
def isBarredInLines (c : Char) : Bool := isBarred c && c != '\n'

/-- The text in front of the first `mark`, and the rest from there on. -/
def splitAt? (mark : List Char) (taken : List Char) :
    List Char → Option (List Char × List Char)
  | [] => none
  | c :: rest =>
    if mark.isPrefixOf (c :: rest) then some (taken.reverse, c :: rest)
    else splitAt? mark (c :: taken) rest

/-- Refuses a barred character in a text that starts here. -/
def refuse (barred : Char → Bool) (text : List Char) : Scan Unit := do
  match text.dropWhile (!barred ·) with
  | [] => return ()
  | c :: later =>
    let rest ← get
    stopAt (.invalidCharacter c) (rest.drop (text.length - later.length - 1))

/-- A comment up to the end of its line, if one comes next. -/
def comment : Scan Unit := do
  if ← takes "#" then
    let text := (← get).takeWhile (· != '\n')
    refuse isBarred text
    drop text.length

/-- Blanks, line ends and comments; every round takes a character. -/
def filling : Nat → Scan Unit
  | 0 => return ()
  | fuel + 1 => do
    let before ← get
    skip isSpaceOrLine
    comment
    if (← get).length < before.length then filling fuel

def skipFilling : Scan Unit := do filling ((← get).length + 1)

/-- The text up to `quotes`, which are taken too. -/
def literal (quotes : String) (barred : Char → Bool) : Scan String := do
  match splitAt? quotes.toList [] (← get) with
  | none => stopAt (.missingQuotes quotes) []
  | some (text, _) =>
    refuse barred text
    drop (text.length + quotes.length)
    return String.ofList text

def isHex (c : Char) : Bool := c.isDigit || ('a' ≤ c && c ≤ 'f') || ('A' ≤ c && c ≤ 'F')

def hexValue (c : Char) : Nat :=
  if c.isDigit then c.toNat - '0'.toNat
  else if 'a' ≤ c then c.toNat - 'a'.toNat + 10 else c.toNat - 'A'.toNat + 10

def hexNumber (cs : List Char) : Nat := cs.foldl (fun n c => n * 16 + hexValue c) 0

/-- The character whose code has `width` hexadecimal digits. -/
def escapedCode (width : Nat) : Scan Char := do
  let digits := (← get).take width
  if digits.length ≠ width || !digits.all isHex then stop .invalidHex
  else
    drop width
    let n := hexNumber digits
    if h : n.isValidChar then return Char.ofNatAux n h else stop .notScalar

def plainEscape? : Char → Option Char
  | 'b' => some '\x08'
  | 't' => some '\t'
  | 'n' => some '\n'
  | 'f' => some '\x0c'
  | 'r' => some '\r'
  | '"' => some '"'
  | '\\' => some '\\'
  | _ => none

/-- The rest of a line that ends in a backslash, with all blanks and line ends that follow. -/
def joinLines (c : Char) : Scan (List Char) := do
  if c ≠ '\n' then
    spaces
    match ← head? with
    | none => return []
    | some '\n' => drop 1
    | some _ => stop .invalidEscape
  skip isSpaceOrLine
  return []

/-- What follows a backslash, as the characters that it stands for. -/
def escaped (inLines : Bool) : Scan (List Char) := do
  match ← head? with
  | none => stop .invalidEscape
  | some c =>
    drop 1
    if inLines && isSpaceOrLine c then joinLines c
    else if c == 'u' then return [← escapedCode 4]
    else if c == 'U' then return [← escapedCode 8]
    else
      match plainEscape? c with
      | some d => return [d]
      | none => stop .invalidEscape

/-- A text with escapes up to its closing quotes; `taken` is what there is of it, reversed. -/
def quotedText (inLines : Bool) : Nat → List Char → Scan (List Char)
  | 0, _ => stop .unterminated
  | fuel + 1, taken => do
    match ← head? with
    | none => stop .unterminated
    | some '"' =>
      if !inLines then
        drop 1
        return taken.reverse
      else if ← takes "\"\"\"" then return taken.reverse
      else
        drop 1
        quotedText inLines fuel ('"' :: taken)
    | some '\\' =>
      drop 1
      quotedText inLines fuel ((← escaped inLines).reverse ++ taken)
    | some c =>
      if (if inLines then isBarredInLines c else isBarred c) then stop (.illegalCharacter c)
      else
        drop 1
        quotedText inLines fuel (c :: taken)

def basic (inLines : Bool) : Scan String := do
  return String.ofList (← quotedText inLines ((← get).length + 1) [])

/-- At most two more quotes belong to the text that three have closed. -/
def moreQuotes (quote : String) (text : String) : Scan String := do
  if ← takes quote then
    if ← takes quote then return text ++ quote ++ quote
    else return text ++ quote
  else return text

/-- A text of several lines; a line end right behind the opening quotes is no part of it. -/
def textOfLines (isLiteral : Bool) : Scan String := do
  drop 3
  let _ ← takes "\n"
  if isLiteral then moreQuotes "'" (← literal "'''" isBarredInLines)
  else moreQuotes "\"" (← basic true)

def isBare (c : Char) : Bool := c.isAlphanum || c == '-' || c == '_'

def isKeyStart (c : Char) : Bool := isBare c || c == '"' || c == '\''

def keyPart : Scan String := do
  match ← head? with
  | some '\'' =>
    drop 1
    literal "'" isBarred
  | some '"' =>
    drop 1
    basic false
  | _ =>
    let text := (← get).takeWhile isBare
    if text.isEmpty then stop .invalidKey
    else
      drop text.length
      return String.ofList text

/-- The parts of a key behind its first one. -/
def moreKeyParts : Nat → Scan Key
  | 0 => return []
  | fuel + 1 => do
    spaces
    if ← takes "." then
      spaces
      let part ← keyPart
      return part :: (← moreKeyParts fuel)
    else return []

def key : Scan Key := do
  let part ← keyPart
  return part :: (← moreKeyParts ((← get).length + 1))

end Scan

end SourceConventions.Toml
