import SourceConventions.Text.CharName

/-!
# Escapes

A backslash stands before an escape: one of a letter, of octal digits, of a fixed number of
hexadecimal digits or of the name of a character. Other backslashes stand for themselves.
-/

namespace SourceConventions.Text

/-- What is wrong with an escape. -/
inductive EscapeFault where
  | shortHex
  | shortCode
  | longCode
  | beyondUnicode
  | malformedName
  | unknownName
  | nothing
  deriving DecidableEq, Repr

def EscapeFault.text : EscapeFault → String
  | .shortHex => "truncated \\xXX escape"
  | .shortCode => "truncated \\uXXXX escape"
  | .longCode => "truncated \\UXXXXXXXX escape"
  | .beyondUnicode => "illegal Unicode character"
  | .malformedName => "malformed \\N character escape"
  | .unknownName => "unknown Unicode character name"
  | .nothing => "\\ at end of string"

namespace Escape

/-- A faulty escape with the room that is taken before it and behind it. -/
structure Fault where
  start : Nat
  stop : Nat
  reason : EscapeFault
  deriving DecidableEq, Repr

def digitValue (c : Char) : Nat :=
  if c.isDigit then c.toNat - 48
  else if 'a' ≤ c ∧ c ≤ 'f' then c.toNat - 87
  else if 'A' ≤ c ∧ c ≤ 'F' then c.toNat - 55
  else 0

def ofDigits (base : Nat) (cs : List Char) : Nat :=
  cs.foldl (fun n c => n * base + digitValue c) 0

def isOctal (c : Char) : Bool := '0' ≤ c && c ≤ '7'

def isHex (c : Char) : Bool := c.isDigit || ('a' ≤ c && c ≤ 'f') || ('A' ≤ c && c ≤ 'F')

/-- The character that a one-letter escape stands for; a joined line stands for none. -/
def simpleEscape? : Char → Option (List Char)
  | '\n' => some []
  | '\\' => some ['\\']
  | '\'' => some ['\'']
  | '"' => some ['"']
  | 'a' => some ['\x07']
  | 'b' => some ['\x08']
  | 'f' => some ['\x0c']
  | 'n' => some ['\n']
  | 'r' => some ['\r']
  | 't' => some ['\t']
  | 'v' => some ['\x0b']
  | _ => none

/-- The room a character takes in the text that positions of faulty escapes refer to, in which
characters beyond ASCII are written as ten character escapes. -/
def room (c : Char) : Nat := if c.toNat < 128 then 1 else 10

def roomOf (cs : List Char) : Nat := cs.foldl (fun n c => n + room c) 0

/-- A character of a code point, or the replacement character where there is none. -/
def charOf (n : Nat) : Char :=
  if n.isValidChar then Char.ofNat n else Char.ofNat 0xfffd

/-- The characters of a text behind some that have been read, last one first; `start` counts the
room taken so far. A backslash with nothing behind it is refused if `strict`. -/
def decodeFrom (strict : Bool) : Nat → Nat → List Char → List Char → Except Fault (List Char)
  | 0, _, taken, _ => .ok taken.reverse
  | fuel + 1, start, taken, cs =>
    match cs with
    | [] => .ok taken.reverse
    | '\\' :: [] =>
      if strict then .error ⟨start, start + 1, .nothing⟩ else .ok ('\\' :: taken).reverse
    | '\\' :: c :: rest =>
      match simpleEscape? c with
      | some l => decodeFrom strict fuel (start + 2) (l ++ taken) rest
      | none =>
        if isOctal c then
          let digits := (c :: rest.take 2).takeWhile isOctal
          decodeFrom strict fuel (start + 1 + digits.length) (charOf (ofDigits 8 digits) :: taken)
            (rest.drop (digits.length - 1))
        else if c == 'x' then hex fuel start taken rest 2 .shortHex
        else if c == 'u' then hex fuel start taken rest 4 .shortCode
        else if c == 'U' then hex fuel start taken rest 8 .longCode
        else if c == 'N' then
          match rest with
          | '\x7b' :: more =>
            let name := more.takeWhile (· != '\x7d')
            let after := more.drop name.length
            match name, after with
            | [], _ | _, [] =>
              .error (.mk start (start + 3 + roomOf name) .malformedName)
            | _, _ :: others =>
              let stop := start + 4 + roomOf name
              match CharName.code? name with
              | some n => decodeFrom strict fuel stop (charOf n :: taken) others
              | none => .error (.mk start stop .unknownName)
          | _ => .error (.mk start (start + 2) .malformedName)
        else if c.toNat < 128 then decodeFrom strict fuel (start + 2) (c :: '\\' :: taken) rest
        else decodeFrom strict fuel (start + 6 + room c) (c :: '\\' :: taken) rest
    | c :: rest => decodeFrom strict fuel (start + room c) (c :: taken) rest
where
  hex (fuel start : Nat) (taken rest : List Char) (width : Nat) (fault : EscapeFault) :
      Except Fault (List Char) :=
    let digits := (rest.take width).takeWhile isHex
    if digits.length < width then .error (.mk start (start + 2 + digits.length) fault)
    else
      let n := ofDigits 16 digits
      if 0x10ffff < n then .error (.mk start (start + 2 + width) .beyondUnicode)
      else decodeFrom strict fuel (start + 2 + width) (charOf n :: taken) (rest.drop width)

/-- A text with its escapes replaced. -/
def decode (strict : Bool) (cs : List Char) : Except Fault (List Char) :=
  decodeFrom strict (cs.length + 1) 0 [] cs

end Escape

end SourceConventions.Text
