import SourceConventions.Syntax.Head
import SourceConventions.Syntax.Token
import SourceConventions.Text.Identifier

/-!
# Tokens of a text

A text is cut into tokens from its first character to its last, which is a line feed. Indentation
is measured twice, with tab stops every eight columns and with tabs of one column, and both
measures have to agree; inside brackets it does not count. The row of tokens breaks off at the
first fault.
-/

namespace SourceConventions.Syntax

namespace Lexing

/-! ### Numbers -/

/-- What is left of a number's end when it may not stand there. -/
def isWordChar (c : Char) : Bool := c.isAlphanum || c == '_' || 128 ≤ c.toNat

/-- Whether a text starts with a word that ends there. -/
def startsWithWord (word : List Char) (cs : List Char) : Bool :=
  word.isPrefixOf cs && !((cs.drop word.length).head?.any isWordChar)

/-- Whether a keyword follows that may touch a number. -/
def keywordMayFollow (cs : List Char) : Bool :=
  startsWithWord ['a', 'n', 'd'] cs || startsWithWord ['e', 'l', 's', 'e'] cs
    || startsWithWord ['f', 'o', 'r'] cs || ['i', 'f'].isPrefixOf cs || ['i', 'n'].isPrefixOf cs
    || ['i', 's'].isPrefixOf cs || startsWithWord ['o', 'r'] cs || startsWithWord ['n', 'o', 't'] cs

/-- A number read so far, its last character first, or a complaint about it. -/
abbrev NumberResult := Except Complaint (List Char × List Char)

/-- A number may not be followed by a word, some keywords apart. -/
def endNumber (kind : NumberKind) (taken rest : List Char) : NumberResult :=
  if keywordMayFollow rest then .ok (taken, rest)
  else if rest.head?.any isWordChar then .error (.invalidNumber kind)
  else .ok (taken, rest)

/-- Digits with single underscores between them; an underscore without a digit behind it is
left. -/
def digits (isDigit : Char → Bool) : List Char → List Char → List Char × List Char
  | taken, '_' :: c :: rest =>
    if isDigit c then digits isDigit (c :: '_' :: taken) rest else (taken, '_' :: c :: rest)
  | taken, c :: rest => if isDigit c then digits isDigit (c :: taken) rest else (taken, c :: rest)
  | taken, [] => (taken, [])

/-- Decimal digits, in which no underscore is left alone. -/
def decimalDigits (taken cs : List Char) : NumberResult :=
  match digits Char.isDigit taken cs with
  | (_, '_' :: _) => .error (.invalidNumber .decimal)
  | (taken, rest) => .ok (taken, rest)

def imaginaryEnd (taken cs : List Char) : NumberResult :=
  match cs with
  | c :: rest =>
    if c == 'j' || c == 'J' then endNumber .imaginary (c :: taken) rest
    else endNumber .decimal taken cs
  | [] => .ok (taken, cs)

/-- An exponent if there is one, and the end of the number. -/
def exponentEnd (taken cs : List Char) : NumberResult :=
  match cs with
  | e :: rest =>
    if e == 'e' || e == 'E' then
      match rest with
      | s :: d :: more =>
        if s == '+' || s == '-' then
          if d.isDigit then do
            let (taken, rest) ← decimalDigits (s :: e :: taken) (d :: more)
            imaginaryEnd taken rest
          else .error (.invalidNumber .decimal)
        else if s.isDigit then do
          let (taken, rest) ← decimalDigits (e :: taken) rest
          imaginaryEnd taken rest
        else endNumber .decimal taken cs
      | _ => .error (.invalidNumber .decimal)
    else imaginaryEnd taken cs
  | [] => .ok (taken, cs)

/-- What follows the point of a number. -/
def fractionEnd (taken cs : List Char) : NumberResult :=
  match cs with
  | c :: _ =>
    if c.isDigit then do
      let (taken, rest) ← decimalDigits taken cs
      exponentEnd taken rest
    else exponentEnd taken cs
  | [] => exponentEnd taken cs

def isOctalDigit (c : Char) : Bool := '0' ≤ c && c ≤ '7'

def isBinaryDigit (c : Char) : Bool := c == '0' || c == '1'

def isHexDigit (c : Char) : Bool := c.isDigit || ('a' ≤ c && c ≤ 'f') || ('A' ≤ c && c ≤ 'F')

/-- The digits behind the mark of a base; one underscore may come first. -/
def basedNumber (kind : NumberKind) (isDigit : Char → Bool) (taken cs : List Char) :
    NumberResult :=
  let wrong (c : Option Char) : Complaint :=
    match c with
    | some d => if d.isDigit && kind ≠ .hexadecimal then .invalidDigit d kind
      else .invalidNumber kind
    | none => .invalidNumber kind
  let first := match cs with
    | '_' :: rest => rest.head?
    | _ => cs.head?
  if first.any isDigit then
    match digits isDigit taken cs with
    | (_, '_' :: rest) => .error (wrong rest.head?)
    | (taken, rest) =>
      if kind ≠ .hexadecimal && rest.head?.any Char.isDigit then .error (wrong rest.head?)
      else endNumber kind taken rest
  else .error (wrong first)

def isZero (c : Char) : Bool := c == '0'

/-- A number that starts with a zero and has no mark of a base. -/
def zeroNumber (cs : List Char) : NumberResult :=
  match digits isZero [] cs with
  | (taken, '_' :: c :: rest) =>
    if c.isDigit then zeroTail (digits Char.isDigit (c :: '_' :: taken) rest)
    else .error (.invalidNumber .decimal)
  | (_, '_' :: []) => .error (.invalidNumber .decimal)
  | (taken, rest) =>
    if rest.head?.any Char.isDigit then zeroTail (digits Char.isDigit taken rest)
    else
      match rest with
      | '.' :: more => fractionEnd ('.' :: taken) more
      | c :: _ =>
        if c == 'e' || c == 'E' then exponentEnd taken rest
        else if c == 'j' || c == 'J' then imaginaryEnd taken rest
        else endNumber .decimal taken rest
      | [] => .ok (taken, rest)
where
  /-- Digits that are not all zeros need a point, an exponent or an imaginary unit. -/
  zeroTail (r : List Char × List Char) : NumberResult :=
    match r with
    | (_, '_' :: _) => .error (.invalidNumber .decimal)
    | (taken, '.' :: more) => fractionEnd ('.' :: taken) more
    | (taken, c :: rest) =>
      if c == 'e' || c == 'E' then exponentEnd taken (c :: rest)
      else if c == 'j' || c == 'J' then imaginaryEnd taken (c :: rest)
      else .error .leadingZeros
    | (_, []) => .error .leadingZeros

/-- A number from its first character, a digit or a point before a digit. -/
def number (cs : List Char) : NumberResult :=
  match cs with
  | '.' :: rest => fractionEnd ['.'] rest
  | '0' :: c :: rest =>
    if c == 'x' || c == 'X' then basedNumber .hexadecimal isHexDigit [c, '0'] rest
    else if c == 'o' || c == 'O' then basedNumber .octal isOctalDigit [c, '0'] rest
    else if c == 'b' || c == 'B' then basedNumber .binary isBinaryDigit [c, '0'] rest
    else zeroNumber cs
  | '0' :: [] => zeroNumber cs
  | _ => do
    let (taken, rest) ← decimalDigits [] cs
    match rest with
    | '.' :: more => fractionEnd ('.' :: taken) more
    | _ => exponentEnd taken rest

/-! ### Names and texts -/

/-- Whether letters that may stand before a text lead up to a quote. The flags tell which of them
have been seen. -/
def leadsToQuote (b r u f : Bool) : List Char → Bool
  | c :: rest =>
    let next (b r u f : Bool) : Bool :=
      match rest with
      | '"' :: _ => true
      | '\'' :: _ => true
      | _ => leadsToQuote b r u f rest
    if !(b || u || f) && (c == 'b' || c == 'B') then next true r u f
    else if !(b || u || r || f) && (c == 'u' || c == 'U') then next b r true f
    else if !(r || u) && (c == 'r' || c == 'R') then next b true u f
    else if !(f || b || u) && (c == 'f' || c == 'F') then next b r u true
    else false
  | [] => false

/-- The characters of a text up to and with its closing quotes, the last one first, and the place
behind them; `need` quotes in a row close it and `seen` have just been read. At the end of the text
or, for a short one, of the line it breaks off. -/
def textBody (quote : Char) (need : Nat) : Nat → List Char → Head → Except Nat (List Char × Head)
  | seen, taken, ⟨cs, line, column⟩ => go seen taken line column cs
where
  go (seen : Nat) (taken : List Char) (line column : Nat) :
      List Char → Except Nat (List Char × Head)
    | [] => .error (line - 1)
    
    | '\\' :: c :: rest =>
      if c == '\n' then go 0 (c :: '\\' :: taken) (line + 1) 0 rest
      else go 0 (c :: '\\' :: taken) line (column + 1 + c.utf8Size) rest
    | c :: rest =>
      if c == quote then
        if seen + 1 = need then .ok (c :: taken, ⟨rest, line, column + 1⟩)
        else go (seen + 1) (c :: taken) line (column + 1) rest
      else if c == '\n' then
        if need = 1 then .error line else go 0 (c :: taken) (line + 1) 0 rest
      else go 0 (c :: taken) line (column + c.utf8Size) rest

/-- A text literal from its opening quote; `taken` are the letters before it, last first. -/
def textLiteral (taken : List Char) (h : Head) : Except Complaint (List Char × Head) :=
  match h.rest with
  | q :: a :: b :: rest =>
    if a == q && b == q then
      match textBody q 3 0 (q :: q :: q :: taken) ⟨rest, h.line, h.column + 3⟩ with
      | .ok r => .ok r
      | .error line => .error (.unterminatedLongText line)
    else if a == q then .ok (q :: q :: taken, ⟨b :: rest, h.line, h.column + 2⟩)
    else short q (a :: b :: rest)
  | q :: rest => short q rest
  | [] => .error (.unterminatedText h.line)
where
  short (q : Char) (rest : List Char) : Except Complaint (List Char × Head) :=
    match textBody q 1 0 (q :: taken) ⟨rest, h.line, h.column + 1⟩ with
    | .ok r => .ok r
    | .error line => .error (.unterminatedText line)

/-- The first character of a name that has no place in it. -/
def badNameChar? : List Char → Option Char
  | [] => none
  | c :: rest =>
    if Text.isIdentifierStart c then rest.find? (fun d => !Text.isIdentifierPart d) else some c

/-! ### Symbols -/

def longSymbols : List (List Char) :=
  [['*', '*', '='], ['/', '/', '='], ['>', '>', '='], ['<', '<', '='], ['.', '.', '.']]

def middleSymbols : List (List Char) := [
  ['!', '='], ['%', '='], ['&', '='], ['*', '*'], ['*', '='], ['+', '='], ['-', '='], ['-', '>'],
  ['/', '/'], ['/', '='], [':', '='], ['<', '<'], ['<', '='], ['<', '>'], ['=', '='], ['>', '='],
  ['>', '>'], ['@', '='], ['^', '='], ['|', '=']]

/-- The longest symbol at the start of a text. -/
def symbol (cs : List Char) : List Char :=
  match longSymbols.find? (·.isPrefixOf cs), middleSymbols.find? (·.isPrefixOf cs) with
  | some s, _ => s
  | none, some s => s
  | none, none => cs.take 1

def closes (closing opening : Char) : Bool :=
  (opening == '(' && closing == ')') || (opening == '[' && closing == ']')
    || (opening == '\x7b' && closing == '\x7d')

/-! ### Type comments -/

def isBlankChar (c : Char) : Bool := c == ' ' || c == '\t'

/-- What a comment declares behind `# type: `, blanks being optional. -/
def typeCommentBody? (comment : List Char) : Option (List Char) :=
  let afterHash := (comment.drop 1).dropWhile isBlankChar
  if ['t', 'y', 'p', 'e', ':'].isPrefixOf afterHash then
    some ((afterHash.drop 5).dropWhile isBlankChar)
  else none

/-- Whether a type comment only asks not to be told about the line. -/
def isIgnored (body : List Char) : Bool :=
  ['i', 'g', 'n', 'o', 'r', 'e'].isPrefixOf body
    && !((body.drop 6).head?.any fun c => 128 ≤ c.toNat || c.isAlphanum)

/-! ### Indentation -/

/-- The two measures of a line's indentation; `kept` is that in front of the first continuation
within it, if it is not zero. -/
structure Indentation where
  column : Nat
  flat : Nat
  kept : Nat
  deriving Repr

/-- Steps over the blanks at the start of a line. -/
def indentation (i : Indentation) (line column : Nat) :
    List Char → Except (Complaint × Nat) (Indentation × Head)
  | ' ' :: rest => indentation { i with column := i.column + 1, flat := i.flat + 1 } line
      (column + 1) rest
  | '\t' :: rest => indentation { i with column := (i.column / 8 + 1) * 8, flat := i.flat + 1 } line
      (column + 1) rest
  | '\x0c' :: rest => indentation { i with column := 0, flat := 0 } line (column + 1) rest
  | '\\' :: '\n' :: [] => .error (.unexpectedEnd, line)
  | '\\' :: '\n' :: rest =>
    indentation { i with kept := if i.kept = 0 then i.column else i.kept } (line + 1) 0 rest
  | '\\' :: _ => .error (.strayContinuation, line)
  | rest => .ok (i, ⟨rest, line, column⟩)

end Lexing

/-- Where a text is being cut. -/
structure LexState where
  head : Head
  /-- Whether a line starts here, whose indentation has not been measured. -/
  lineStart : Bool
  /-- Whether the line holds no more than a comment. -/
  blankLine : Bool
  /-- The measures of the blocks that are open, innermost first. -/
  indents : List (Nat × Nat)
  /-- Dedents that are still to be told. -/
  dedents : Nat
  brackets : List (Char × Nat)
  /-- The first of the lines that hang together with the present one. -/
  since : Nat
  typeComments : Bool
  deriving Repr

namespace LexState

open Lexing

/-- One step: a token, none, the end, or a complaint about a line. -/
inductive Step where
  | token (t : Token) (next : LexState)
  | silent (next : LexState)
  | done (t : Token)
  | stop (s : Stop)

def tokenAt (s : LexState) (kind : TokenKind) (lexeme : List Char) (pos : Position) : Token :=
  ⟨kind, String.ofList lexeme, pos, s.brackets.length, ⟨s.since, pos.line⟩⟩

def stopAt (s : LexState) (c : Complaint) (line : Nat) : Step :=
  .stop ⟨c, line, s.brackets.head?, ⟨s.since, line⟩⟩

def maxIndents : Nat := 100

def maxBrackets : Nat := 200

/-- Compares the measures of a line with those of the open blocks. -/
def applyIndentation (s : LexState) (column flat line : Nat) : Step :=
  let (topColumn, topFlat) := s.indents.headD (0, 0)
  if column = topColumn then
    if flat = topFlat then .silent s else s.stopAt .inconsistentTabs line
  else if topColumn < column then
    if maxIndents ≤ s.indents.length + 1 then s.stopAt .tooManyIndents line
    else if flat ≤ topFlat then s.stopAt .inconsistentTabs line
    else .token (s.tokenAt .indent [] s.head.pos) { s with indents := (column, flat) :: s.indents }
  else
    let left := s.indents.dropWhile (fun i => column < i.1)
    let (newColumn, newFlat) := left.headD (0, 0)
    if column ≠ newColumn then s.stopAt .unmatchedDedent line
    else if flat ≠ newFlat then s.stopAt .inconsistentTabs line
    else .silent { s with indents := left, dedents := s.indents.length - left.length }

/-- Measures the indentation of a line. -/
def startLine (s : LexState) : Step :=
  match indentation ⟨0, 0, 0⟩ s.head.line s.head.column s.head.rest with
  | .error (c, line) => { s with since := line }.stopAt c line
  | .ok (i, head) =>
    let s := if s.head.line < head.line then { s with since := head.lastLine } else s
    let blank := match head.rest with
      | '#' :: _ => true
      | '\n' :: _ => true
      | _ => false
    let s := { s with head, lineStart := false, blankLine := blank }
    if blank || !s.brackets.isEmpty then .silent s
    else if i.kept ≠ 0 then s.applyIndentation i.kept i.kept head.lastLine
    else s.applyIndentation i.column i.flat head.lastLine

def nameOrKeyword (name : String) : TokenKind :=
  if keywords.contains name then .keyword else .name

def word (s : LexState) : Step :=
  let h := s.head
  let taken := h.rest.takeWhile isWordChar
  match if taken.all (·.toNat < 128) then none else badNameChar? taken with
  | some c =>
    s.stopAt (if Text.isPrintable c then .invalidCharacter c else .unprintableCharacter c) h.line
  | none =>
    .token (s.tokenAt (nameOrKeyword (String.ofList taken)) taken h.pos)
      { s with head := h.skip taken (h.rest.drop taken.length) }

def textToken (s : LexState) : Step :=
  let h := s.head
  let letters := h.rest.takeWhile Char.isAlpha
  let start := h.skip letters (h.rest.drop letters.length)
  match textLiteral letters.reverse start with
  | .error c => s.stopAt c h.line
  | .ok (taken, head) =>
    .token { s.tokenAt .text taken.reverse h.pos with stretch := ⟨s.since, head.line⟩ }
      { s with head }

def numberToken (s : LexState) : Step :=
  let h := s.head
  match number h.rest with
  | .error c => s.stopAt c h.line
  | .ok (taken, rest) =>
    .token (s.tokenAt .number taken.reverse h.pos) { s with head := h.skip taken rest }

def symbolToken (s : LexState) : Step :=
  let h := s.head
  let taken := symbol h.rest
  let next := { s with head := h.skip taken (h.rest.drop taken.length) }
  match taken with
  | [c] =>
    if c == '(' || c == '[' || c == '\x7b' then
      if maxBrackets ≤ s.brackets.length then s.stopAt .tooManyBrackets h.line
      else
        let next := { next with brackets := (c, h.line) :: s.brackets }
        .token (next.tokenAt .symbol taken h.pos) next
    else if c == ')' || c == ']' || c == '\x7d' then
      match s.brackets with
      | [] => s.stopAt (.unmatchedBracket c) h.line
      | (opening, line) :: rest =>
        let next := { next with brackets := rest }
        if closes c opening then .token (next.tokenAt .symbol taken h.pos) next
        else
          next.stopAt (.mismatchedBracket c opening (if line = h.line then none else some line))
            h.line
    else if Text.isPrintable c then .token (s.tokenAt .symbol taken h.pos) next
    else s.stopAt (.unprintableCharacter c) h.line
  | _ => .token (s.tokenAt .symbol taken h.pos) next

/-- Steps over a comment, or gives the type that it declares. -/
def comment (s : LexState) : Step :=
  let h := s.head
  let taken := h.rest.takeWhile (· != '\n')
  let next := { s with head := h.skip taken (h.rest.drop taken.length) }
  match if s.typeComments then typeCommentBody? taken else none with
  | some body =>
    if isIgnored body then .silent next
    else .token (s.tokenAt .typeComment body h.pos) { next with blankLine := false }
  | none => .silent next

/-- Ends a line; only a line with tokens outside brackets gives a token. -/
def lineEnd (s : LexState) (rest : List Char) : Step :=
  let since := if rest.isEmpty then s.since else s.head.line + 1
  let next := { s with head := s.head.step '\n' rest, lineStart := true, blankLine := false, since }
  if s.blankLine || !s.brackets.isEmpty then .silent next
  else .token (s.tokenAt .lineEnd [] s.head.pos) next

/-- A backslash joins a line with the next one, which must not be missing. -/
def continuation (s : LexState) (rest : List Char) : Step :=
  match rest with
  | '\n' :: [] => s.stopAt .unexpectedEnd s.head.line
  | '\n' :: more => .silent { s with head := ⟨more, s.head.line + 1, 0⟩ }
  | _ => s.stopAt .strayContinuation s.head.line

/-- Reads on from behind the indentation. -/
def within (s : LexState) : Step :=
  match s.head.rest with
  | [] =>
    if s.brackets.isEmpty then .done (s.tokenAt .endMark [] ⟨s.head.lastLine, 0⟩)
    else s.stopAt .unexpectedEnd s.head.lastLine
  | c :: rest =>
    if c == ' ' || c == '\t' || c == '\x0c' then .silent { s with head := s.head.step c rest }
    else if c == '#' then s.comment
    else if c == '\n' then s.lineEnd rest
    else if c == '\\' then s.continuation rest
    else if c == '"' || c == '\'' then s.textToken
    else if c.isDigit || (c == '.' && rest.head?.any Char.isDigit) then s.numberToken
    else if isWordChar c then
      if leadsToQuote false false false false s.head.rest then s.textToken else s.word
    else s.symbolToken

def step (s : LexState) : Step :=
  if s.lineStart then s.startLine
  else if s.dedents ≠ 0 then
    .token (s.tokenAt .dedent [] ⟨s.head.lastLine, s.head.column⟩) { s with dedents := s.dedents - 1 }
  else s.within

def run : Nat → List Token → LexState → Tokens
  | 0, taken, _ => ⟨taken.reverse, none⟩
  | fuel + 1, taken, s =>
    match s.step with
    | .token t next => run fuel (t :: taken) next
    | .silent next => run fuel taken next
    | .done t => ⟨(t :: taken).reverse, none⟩
    | .stop stop => ⟨taken.reverse, some stop⟩

end LexState

/-- The tokens of a text that stands at a position; a missing last line feed is added. -/
def Tokens.ofChars (typeComments : Bool) (start : Position) (cs : List Char) : Tokens :=
  let cs := if cs.getLast? = some '\n' then cs else cs ++ ['\n']
  -- each character is stepped over once; a line start and a dedent take steps of their own
  LexState.run (4 * cs.length + 4) []
    ⟨⟨cs, start.line, start.column⟩, true, false, [], 0, [], start.line, typeComments⟩

end SourceConventions.Syntax
