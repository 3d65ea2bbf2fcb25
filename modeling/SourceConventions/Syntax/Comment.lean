import SourceConventions.Syntax.Head
import SourceConventions.Text.Quoted

/-!
# Comments of a text

Comments are looked for line by line in a text that need not be a program. Only what can hide a
comment is followed: texts in quotes, brackets, joined lines and the indentation, which must be
such that every line goes back to one seen before. Lines end in line feeds.
-/

namespace SourceConventions.Syntax

structure Comment where
  line : Nat
  text : List Char
  deriving DecidableEq, Repr

/-- Why the comments of a text cannot be told. -/
inductive CommentFault where
  /-- A text in quotes that starts at a line and a character is not closed. -/
  | openText (line column : Nat)
  /-- The last line, whose number follows, would have to go on. -/
  | openStatement (line : Nat)
  | unevenDedent (line : Nat)
  deriving DecidableEq, Repr

def CommentFault.text : CommentFault → String
  | .openText line column => s!"('EOF in multi-line string', ({line}, {column}))"
  | .openStatement line => s!"('EOF in multi-line statement', ({line}, 0))"
  | .unevenDedent line =>
    s!"unindent does not match any outer indentation level (<tokenize>, line {line})"

namespace Comment

/-- A text in quotes that goes on in the next line. -/
structure OpenText where
  quote : Char
  long : Bool
  line : Nat
  column : Nat
  deriving DecidableEq, Repr

/-- What is known between two lines. -/
structure ScanState where
  /-- Measures of the indentation, the innermost first. -/
  indents : List Nat
  /-- How many more brackets have been opened than closed. -/
  depth : Int
  continued : Bool
  openText : Option OpenText
  /-- Whether texts that go on in the next line have to say so by a backslash. -/
  needsMark : Bool
  deriving Repr

/-- What is left of a line behind the end of a long text. -/
def behindLong? (quote : Char) : List Char → Option (List Char)
  | [] => none
  | '\\' :: c :: rest => if c = '\n' then none else behindLong? quote rest
  | c :: rest =>
    if c = quote then
      match rest with
      | a :: b :: more => if a = quote ∧ b = quote then some more else behindLong? quote rest
      | _ => behindLong? quote rest
    else behindLong? quote rest

/-- How a short text ends in its first line. -/
inductive ShortEnd where
  | closed (rest : List Char)
  | goesOn
  | unclosed

def shortEnd (quote : Char) : List Char → ShortEnd
  | [] => .unclosed
  | '\\' :: '\n' :: _ => .goesOn
  | '\\' :: '\r' :: '\n' :: _ => .goesOn
  | '\\' :: _ :: rest => shortEnd quote rest
  | c :: rest =>
    if c = quote then .closed rest
    else if c = '\n' ∨ c = '\\' then .unclosed
    else shortEnd quote rest

/-- What is left of a later line of a short text behind its end. -/
def behindShort? (quote : Char) : List Char → Option (List Char)
  | [] => none
  | '\\' :: c :: rest => if c = '\n' then none else behindShort? quote rest
  | c :: rest =>
    if c = quote then some rest else if c = '\\' then none else behindShort? quote rest

/-- Whether a line ends in a backslash. -/
def isMarked (line : List Char) : Bool :=
  match line.reverse with
  | '\n' :: '\\' :: _ => true
  | '\n' :: '\r' :: '\\' :: _ => true
  | _ => false

/-- Looks through what is left of a line from a character on, and gives the comments in it. -/
def scanRest (lineNumber size : Nat) : Nat → ScanState → List Char → ScanState × List Comment
  | 0, s, _ => (s, [])
  | _ + 1, s, [] => (s, [])
  | fuel + 1, s, c :: rest =>
    let go := scanRest lineNumber size fuel
    if c = '\n' then (s, [])
    else if c = '#' then
      let body := rest.takeWhile fun d => d != '\n' && d != '\r'
      let (s, more) := go s (rest.drop body.length)
      (s, ⟨lineNumber, '#' :: body⟩ :: more)
    else if c = '\'' ∨ c = '"' then
      let column := size - (rest.length + 1)
      match rest with
      | a :: b :: inside =>
        if a = c ∧ b = c then
          match behindLong? c inside with
          | some more => go s more
          | none => ({ s with openText := some ⟨c, true, lineNumber, column⟩ }, [])
        else short c column rest s go
      | _ => short c column rest s go
    else if c = '\\' then
      match rest with
      | '\n' :: _ => ({ s with continued := true }, [])
      | '\r' :: '\n' :: _ => ({ s with continued := true }, [])
      | _ => go s rest
    else if c = '(' ∨ c = '[' ∨ c = '\x7b' then go { s with depth := s.depth + 1 } rest
    else if c = ')' ∨ c = ']' ∨ c = '\x7d' then go { s with depth := s.depth - 1 } rest
    else go s rest
where
  /-- A short text that is not closed is no text. -/
  short (c : Char) (column : Nat) (rest : List Char) (s : ScanState)
      (go : ScanState → List Char → ScanState × List Comment) : ScanState × List Comment :=
    match shortEnd c rest with
    | .closed more => go s more
    | .goesOn =>
      ({ s with openText := some ⟨c, false, lineNumber, column⟩, needsMark := true }, [])
    | .unclosed => go s rest

/-- The measure of an indentation and what follows it. -/
def measure (column : Nat) : List Char → Nat × List Char
  | ' ' :: rest => measure (column + 1) rest
  | '\t' :: rest => measure ((column / 8 + 1) * 8) rest
  | '\x0c' :: rest => measure 0 rest
  | rest => (column, rest)

/-- A line at which a statement starts. -/
def scanStatement (lineNumber : Nat) (s : ScanState) (line : List Char) :
    Except CommentFault (ScanState × List Comment) :=
  let (column, rest) := measure 0 line
  match rest with
  | [] => .ok (s, [])
  | c :: _ =>
    if c = '\n' ∨ c = '\r' then .ok (s, [])
    else if c = '#' then
      let body := (rest.reverse.dropWhile fun d => d == '\n' || d == '\r').reverse
      .ok (s, [⟨lineNumber, body⟩])
    else
      let top := s.indents.headD 0
      let indents := if top < column then column :: s.indents
        else s.indents.dropWhile fun i => column < i
      if column < top && !s.indents.contains column then .error (.unevenDedent lineNumber)
      else .ok (scanRest lineNumber line.length (line.length + 1) { s with indents } rest)

def scanLine (lineNumber : Nat) (s : ScanState) (line : List Char) :
    Except CommentFault (ScanState × List Comment) :=
  match s.openText with
  | some t =>
    match if t.long then behindLong? t.quote line else behindShort? t.quote line with
    | some rest =>
      .ok (scanRest lineNumber line.length (line.length + 1)
        { s with openText := none, needsMark := false } rest)
    | none =>
      if s.needsMark && !isMarked line then .ok ({ s with openText := none }, [])
      else .ok (s, [])
  | none =>
    if s.depth = 0 ∧ !s.continued then scanStatement lineNumber s line
    else
      .ok (scanRest lineNumber line.length (line.length + 1) { s with continued := false } line)

def scanLines (s : ScanState) (lineNumber : Nat) :
    List (List Char) → Except CommentFault (List Comment)
  | [] =>
    match s.openText with
    | some t => .error (.openText t.line t.column)
    | none => if s.depth = 0 ∧ !s.continued then .ok [] else .error (.openStatement lineNumber)
  | line :: rest => do
    let (s, comments) ← scanLine lineNumber s line
    return comments ++ (← scanLines s (lineNumber + 1) rest)

/-- The lines of a text with the line feeds that end them. -/
def endedLines (taken : List Char) : List Char → List (List Char)
  | [] => if taken.isEmpty then [] else [taken.reverse]
  | c :: rest =>
    if c = '\n' then (c :: taken).reverse :: endedLines [] rest else endedLines (c :: taken) rest

/-- The comments of a text. -/
def ofText (text : String) : Except CommentFault (List Comment) :=
  scanLines ⟨[0], 0, false, none, false⟩ 1 (endedLines [] text.toList)

end Comment

end SourceConventions.Syntax
