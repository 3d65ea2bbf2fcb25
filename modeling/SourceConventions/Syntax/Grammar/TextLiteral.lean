import SourceConventions.Syntax.Grammar.Listing
import SourceConventions.Syntax.Head
import SourceConventions.Syntax.Literal

/-!
# Text literals

Literals that stand side by side are one. If a letter before one of them asks for it, its
placeholders are read and the result is a joined text: literal parts, and placeholders with an
expression, a conversion and a format that may itself have placeholders.
-/

namespace SourceConventions.Syntax.Grammar

open Reading

/-! ### Literal parts -/

/-- A literal part, what follows it, and whether it ended at a doubled brace. -/
structure LiteralPart where
  chars : List Char
  head : Head
  doubled : Bool

/-- Takes the characters up to a brace. Outside formats a doubled brace stands for a single one;
the braces of a named character are no placeholder. -/
def takeLiteral (raw topLevel : Bool) (inName : Bool) (taken : List Char) (line column : Nat) :
    List Char → Except Complaint LiteralPart
  | [] => .ok ⟨taken.reverse, ⟨[], line, column⟩, false⟩
  | c :: rest =>
    let next := Head.step ⟨c :: rest, line, column⟩ c rest
    if inName then
      takeLiteral raw topLevel (c != '\x7d') (c :: taken) next.line next.column rest
    else if c == '\x7b' || c == '\x7d' then
      if topLevel && rest.head? == some c then
        .ok ⟨(c :: taken).reverse, ⟨rest.drop 1, line, column + 2⟩, true⟩
      else if topLevel && c == '\x7d' then .error .placeholderLoneBrace
      else .ok ⟨taken.reverse, ⟨c :: rest, line, column⟩, false⟩
    else if c == '\\' && !raw then
      match rest with
      | 'N' :: d :: more =>
        let behind := Head.step ⟨d :: more, line, column + 2⟩ d more
        takeLiteral raw topLevel (d == '\x7b') (d :: 'N' :: c :: taken) behind.line behind.column
          more
      | d :: more =>
        if d == '\x7b' || d == '\x7d' then
          takeLiteral raw topLevel false (c :: taken) next.line next.column (d :: more)
        else
          let behind := Head.step ⟨d :: more, next.line, next.column⟩ d more
          takeLiteral raw topLevel false (d :: c :: taken) behind.line behind.column more
      | [] => takeLiteral raw topLevel false (c :: taken) next.line next.column []
    else takeLiteral raw topLevel false (c :: taken) next.line next.column rest

/-! ### Placeholders -/

/-- The quotes of a text within a placeholder. -/
structure OpenQuote where
  char : Char
  long : Bool

def maxPlaceholderBrackets : Nat := 200

def bracketsMatch (opening closing : Char) : Bool :=
  (opening == '(' && closing == ')') || (opening == '[' && closing == ']')
    || (opening == '\x7b' && closing == '\x7d')

/-- Takes the characters of a placeholder's expression: up to a closing brace, a colon, a single
equals sign or an exclamation mark outside brackets and quotes. -/
def takeExpression (quote : Option OpenQuote) (brackets : List Char) (taken : List Char)
    (line column : Nat) : List Char → Except Complaint (List Char × Head)
  | [] =>
    if quote.isSome then .error .placeholderUnterminated
    else
      match brackets with
      | c :: _ => .error (.placeholderUnmatched c)
      | [] => .error .placeholderOpen
  | c :: rest =>
    let next := Head.step ⟨c :: rest, line, column⟩ c rest
    let go (quote : Option OpenQuote) (brackets : List Char) :=
      takeExpression quote brackets (c :: taken) next.line next.column rest
    if c == '\\' then .error .placeholderBackslash
    else
      match quote with
      | some q =>
        if c != q.char then go quote brackets
        else if q.long then
          match rest with
          | a :: b :: more =>
            if a == c && b == c then
              takeExpression none brackets (c :: c :: c :: taken) line (column + 3) more
            else go quote brackets
          | _ => go quote brackets
        else go none brackets
      | none =>
        if c == '\'' || c == '"' then
          match rest with
          | a :: b :: more =>
            if a == c && b == c then
              takeExpression (some ⟨c, true⟩) brackets (c :: c :: c :: taken) line (column + 3) more
            else go (some ⟨c, false⟩) brackets
          | _ => go (some ⟨c, false⟩) brackets
        else if c == '[' || c == '\x7b' || c == '(' then
          if maxPlaceholderBrackets ≤ brackets.length then .error .placeholderBrackets
          else go none (c :: brackets)
        else if c == '#' then .error .placeholderComment
        else
          match brackets with
          | [] =>
            if c == '!' || c == '=' || c == '<' || c == '>' then
              match rest with
              | '=' :: more =>
                takeExpression none [] ('=' :: c :: taken) line (column + 2) more
              | _ =>
                if c == '<' || c == '>' then go none []
                else .ok (taken.reverse, ⟨c :: rest, line, column⟩)
            else if c == ':' || c == '\x7d' then .ok (taken.reverse, ⟨c :: rest, line, column⟩)
            else if c == ']' || c == ')' then .error (.placeholderUnmatched c)
            else go none []
          | opening :: outer =>
            if c == ']' || c == '\x7d' || c == ')' then
              if bracketsMatch opening c then go none outer
              else .error (.placeholderMismatched c opening)
            else go none brackets

def isLayoutBlank (c : Char) : Bool := c == ' ' || c == '\t' || c == '\n' || c == '\x0c'

/-- Takes the blanks behind an equals sign. -/
def takeBlanks (taken : List Char) (line column : Nat) : List Char → List Char × Head
  | [] => (taken.reverse, ⟨[], line, column⟩)
  | c :: rest =>
    if isLayoutBlank c || c == '\r' || c == '\x0b' then
      let next := Head.step ⟨c :: rest, line, column⟩ c rest
      takeBlanks (c :: taken) next.line next.column rest
    else (taken.reverse, ⟨c :: rest, line, column⟩)

/-- The parts of a joined text so far, last first, and the characters since the last of them. -/
structure JoinedParts where
  parts : List Expr
  pending : List Char

namespace JoinedParts

def empty : JoinedParts := ⟨[], []⟩

def addText (ps : JoinedParts) (cs : List Char) : JoinedParts :=
  { ps with pending := ps.pending ++ cs }

/-- Makes a part of the characters since the last one, if there are any. -/
def close (pos : Position) (ps : JoinedParts) : List Expr :=
  if ps.pending.isEmpty then ps.parts
  else node (.constant (.text (String.ofList ps.pending))) pos [] :: ps.parts

def addPart (pos : Position) (ps : JoinedParts) (e : Expr) : JoinedParts :=
  ⟨e :: ps.close pos, []⟩

def toNode (pos : Position) (ps : JoinedParts) : Expr :=
  node .joined pos (all .element (ps.close pos).reverse)

end JoinedParts

def ofExcept {α : Type} (e : Except Complaint α) : Reading α :=
  match e with
  | .ok a => pure a
  | .error c => complain c

/-- Formats may have placeholders whose formats may have none. -/
def maxFormatDepth : Nat := 2

/-- Reads on in a text with placeholders; in a format, up to the brace that closes the
placeholder. -/
def joinedParts (raw : Bool) (pos : Position) : Nat → Nat → JoinedParts → Head →
    Reading (JoinedParts × Head)
  | 0, _, ps, head => pure (ps, head)
  | fuel + 1, depth, ps, head => do
    let part ← ofExcept (takeLiteral raw (depth = 0) false [] head.line head.column head.rest)
    let chars ← if raw then pure part.chars else ofExcept (Literal.unescaped part.chars)
    let ps := ps.addText chars
    let head := part.head
    if part.doubled then joinedParts raw pos fuel depth ps head
    else
      match head.rest with
      | '\x7b' :: inside => do
        if maxFormatDepth ≤ depth then complain .placeholderDepth
        let (cs, behind) ← ofExcept (takeExpression none [] [] head.line (head.column + 1) inside)
        if cs.all isLayoutBlank then complain (bare behind)
        let e ← placeholder head.pos cs
        let (echo, behind) := self cs behind
        let (conversion, behind) ← conversion behind
        let (format, behind) ← (match behind.rest with
          | ':' :: rest => do
            let (qs, behind) ←
              joinedParts raw pos fuel (depth + 1) .empty ⟨rest, behind.line, behind.column + 1⟩
            pure (some (qs.toNode pos), behind)
          | _ => pure (none, behind))
        match behind.rest with
        | '\x7d' :: rest => do
          let conversion :=
            if !echo.isEmpty && conversion.isNone && format.isNone then some 'r' else conversion
          let e := node (.placeholder conversion) pos (e.withRole .value :: optional .format format)
          joinedParts raw pos fuel depth ((ps.addText echo).addPart pos e)
            ⟨rest, behind.line, behind.column + 1⟩
        | _ => complain .placeholderOpen
      | _ => pure (ps, head)
where
  /-- An expression that an equals sign follows is repeated as text. -/
  self (cs : List Char) (head : Head) : List Char × Head :=
    match head.rest with
    | '=' :: rest =>
      let (blanks, behind) := takeBlanks [] head.line (head.column + 1) rest
      (cs ++ '=' :: blanks, behind)
    | _ => ([], head)
  /-- What is wrong with blanks in the place of an expression. -/
  bare (head : Head) : Complaint :=
    match head.rest with
    | c :: _ => if c == '\x7d' then .placeholderEmpty else .placeholderBare c
    | [] => .placeholderEmpty
  conversion (head : Head) : Reading (Option Char × Head) :=
    match head.rest with
    | '!' :: rest =>
      let name := rest.takeWhile fun c => c != '\x7d' && c != ':'
      let behind := name.foldl (fun h c => Head.step h c (h.rest.drop 1))
        ⟨rest, head.line, head.column + 1⟩
      match behind.rest, name with
      | [], _ => complain .placeholderOpen
      | _, [] => complain .placeholderNoConversion
      | _, ['s'] | _, ['r'] | _, ['a'] => pure (name.head?, behind)
      | _, _ => complain (.placeholderConversion (String.ofList name))
    | _ => pure (none, head)

/-! ### Literals side by side -/

/-- What literals side by side are worth so far. -/
inductive TextValue where
  | octets (ns : List Nat)
  | text (joined : Bool) (parts : JoinedParts)

def TextValue.toNode (pos : Position) : TextValue → Expr
  | .octets ns => node (.constant (.octets ns)) pos []
  | .text true ps => ps.toNode pos
  | .text false ps => node (.constant (.text (String.ofList ps.pending))) pos []

/-- Octet literals and text literals do not mix. -/
def addLiteral (pos : Position) (value : Option TextValue) (t : Token) : Reading TextValue := do
  let l := Literal.Parts.ofLexeme t.lexeme.toList
  if l.octets then
    if l.inside.any (128 ≤ ·.toNat) then complainAt t.pos.line .nonAsciiOctets
    let ns ← if l.raw then pure (l.inside.map Char.toNat)
      else ofExcept (Literal.unescapedOctets l.inside)
    match value with
    | none => return .octets ns
    | some (.octets ms) => return .octets (ms ++ ns)
    | some (.text _ _) => complain .mixedLiterals
  else do
    let chars ← if l.placeholders || l.raw then pure l.inside
      else ofExcept (Literal.unescaped l.inside)
    match value with
    | some (.octets _) => complain .mixedLiterals
    | _ =>
      let (joined, ps) := match value with
        | some (.text joined ps) => (joined, ps)
        | _ => (false, .empty)
      if l.placeholders then do
        let start : Head := ⟨chars, t.pos.line, t.pos.column + l.opening.length⟩
        let (ps, _) ← joinedParts l.raw pos (2 * chars.length + 1) 0 ps start
        return .text true ps
      else return .text joined (ps.addText chars)

def texts : Reading Expr := do
  let first ← ofKind .text
  let rest ← many (ofKind .text)
  let value ← (first :: rest).foldlM (fun v t => some <$> addLiteral first.pos v t) none
  return (value.getD (.octets [])).toNode first.pos

end SourceConventions.Syntax.Grammar
