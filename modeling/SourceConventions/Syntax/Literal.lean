import SourceConventions.Syntax.Token
import SourceConventions.Text.Escape

/-!
# Values of literals

`numberValue` reads the lexeme of a number, `unescaped` and `unescapedOctets` the inside of a text
literal.
-/

namespace SourceConventions.Syntax.Literal

open Number Text.Escape

/-- A decimal with an optional fraction and exponent. -/
def realValue (cs : List Char) : Binary64 :=
  let isExponent (c : Char) : Bool := c == 'e' || c == 'E'
  let mantissa := cs.takeWhile (fun c => !isExponent c)
  let exponent := (cs.dropWhile (fun c => !isExponent c)).drop 1
  let power : Int :=
    match exponent with
    | '-' :: digits => -(ofDigits 10 digits : Int)
    | '+' :: digits => ofDigits 10 digits
    | digits => ofDigits 10 digits
  let places := ((mantissa.dropWhile (· != '.')).drop 1).length
  .ofDecimal false (ofDigits 10 (mantissa.filter (· != '.'))) (power - places)

/-- The value of a number; a decimal integer may not have too many digits. -/
def numberValue (lexeme : String) : Except Complaint Numeral :=
  let cs := lexeme.toList.filter (· != '_')
  match cs with
  | '0' :: b :: digits =>
    if b == 'x' || b == 'X' then .ok (.integer (ofDigits 16 digits))
    else if b == 'o' || b == 'O' then .ok (.integer (ofDigits 8 digits))
    else if b == 'b' || b == 'B' then .ok (.integer (ofDigits 2 digits))
    else decimal cs
  | _ => decimal cs
where
  decimal (cs : List Char) : Except Complaint Numeral :=
    if cs.all Char.isDigit then
      if Numeral.maxDigits < cs.length && cs.any (· != '0') then .error (.tooManyDigits cs.length)
      else .ok (.integer (ofDigits 10 cs))
    else
      match cs.getLast? with
      | some 'j' => .ok (.imaginary false (realValue cs.dropLast))
      | some 'J' => .ok (.imaginary false (realValue cs.dropLast))
      | _ => .ok (.real (realValue cs))

/-- The characters of a text literal after its escapes have been replaced. -/
def unescaped (cs : List Char) : Except Complaint (List Char) :=
  (decode false cs).mapError fun f => .escape f.start f.stop f.reason

/-- The octets of a literal after its escapes have been replaced. -/
def unescapeOctets : Nat → Nat → List Nat → List Char → Except Complaint (List Nat)
  | 0, _, taken, _ => .ok taken.reverse
  | fuel + 1, start, taken, cs =>
    match cs with
    | [] => .ok taken.reverse
    | '\\' :: c :: rest =>
      match simpleEscape? c with
      | some l => unescapeOctets fuel (start + 2) (l.map Char.toNat ++ taken) rest
      | none =>
        if isOctal c then
          let digits := (c :: rest.take 2).takeWhile isOctal
          unescapeOctets fuel (start + 1 + digits.length) (ofDigits 8 digits % 256 :: taken)
            (rest.drop (digits.length - 1))
        else if c == 'x' then
          let digits := (rest.take 2).takeWhile isHex
          if digits.length < 2 then .error (.octetEscape start)
          else unescapeOctets fuel (start + 4) (ofDigits 16 digits :: taken) (rest.drop 2)
        else unescapeOctets fuel (start + 2) (c.toNat :: 92 :: taken) rest
    | c :: rest => unescapeOctets fuel (start + 1) (c.toNat :: taken) rest

def unescapedOctets (cs : List Char) : Except Complaint (List Nat) :=
  unescapeOctets (cs.length + 1) 0 [] cs

/-- The parts of the lexeme of a text literal. -/
structure Parts where
  octets : Bool
  raw : Bool
  placeholders : Bool
  /-- The characters before the inside: letters and opening quotes. -/
  opening : List Char
  inside : List Char
  deriving Repr

def Parts.ofLexeme (lexeme : List Char) : Parts :=
  let letters := lexeme.takeWhile Char.isAlpha
  let has (c d : Char) : Bool := letters.contains c || letters.contains d
  let body := lexeme.drop letters.length
  let quotes :=
    match body with
    | a :: b :: c :: _ => if a == b && b == c && 6 ≤ body.length then 3 else 1
    | _ => 1
  { octets := has 'b' 'B'
    raw := has 'r' 'R'
    placeholders := has 'f' 'F'
    opening := letters ++ body.take quotes
    inside := (body.drop quotes).take (body.length - 2 * quotes) }

end SourceConventions.Syntax.Literal
