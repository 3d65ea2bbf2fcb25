import SourceConventions.Syntax.Token

/-!
# Readings of a row of tokens

A reading is tried at a place in a row of tokens: it finds a value and moves on, finds nothing, or
ends the whole attempt with a fault. Alternatives are tried in order and the first that finds
something stands. What a nonterminal finds at a place is remembered, so that every place is looked
at a bounded number of times.
-/

namespace SourceConventions.Syntax

/-- The nonterminals that refer to themselves or are worth remembering. -/
inductive Nonterminal where
  | block
  | simpleStatement
  | elifClause
  | expression
  | starExpression
  | disjunction
  | conjunction
  | inversion
  | bitOr
  | bitXor
  | bitAnd
  | shift
  | sum
  | term
  | factor
  | awaited
  | primary
  | texts
  | arguments
  | starTarget
  | starAtomTarget
  | targetPrimary
  | singleTarget
  | deletionTarget
  | annotatedGroup
  | walrusMisuse
  | closedPattern
  | starPattern
  deriving DecidableEq, Repr

namespace Nonterminal

/-- What a nonterminal finds. -/
@[reducible] def Value : Nonterminal → Type
  | .block => List Stmt
  | .simpleStatement => Stmt
  | .elifClause => Stmt
  | .arguments => List Expr
  | .walrusMisuse => Unit
  | _ => Expr

end Nonterminal

/-- What a nonterminal has found at a place: nothing, or a value and the place behind it. -/
structure Remembered where
  rule : Nonterminal
  result : Option (rule.Value × Nat)

/-- The state of a reading: the next token, how many tokens have been fetched, and what has been
found at each place. -/
structure Cursor where
  index : Nat
  reach : Nat
  memory : Array (List Remembered)

inductive Outcome (α : Type) where
  | found (value : α) (cursor : Cursor)
  | absent (cursor : Cursor)
  /-- A fault, whether the tokens themselves have it, and how many of them had been fetched. -/
  | wrong (fault : Fault) (ofTokens : Bool) (reach : Nat)

/-- What stays the same throughout a reading. -/
structure Surroundings where
  tokens : Array Token
  stop : Option Stop
  /-- Whether readings that only look for what is wrong take part. -/
  diagnosing : Bool
  /-- Whether the tokens are those of a placeholder, which complaints have to tell. -/
  inPlaceholder : Bool
  /-- The expression in a placeholder whose opening brace stands at a position. -/
  placeholder : Position → List Char → Except Fault Expr
  /-- The lines of the text, and the number of the first one. -/
  lines : List (List Char)
  firstLine : Nat
  /-- Lines that are shown in place of those of the text. -/
  stoodFor : List (List Char)

namespace Surroundings

/-- The complaint as it is made here. -/
def placed (s : Surroundings) (c : Complaint) : Complaint :=
  if s.inPlaceholder then .inPlaceholder c else c

/-- The line of the last of the first tokens. -/
def lineBefore (s : Surroundings) (reach : Nat) : Nat :=
  (s.tokens[reach - 1]?).elim 0 (·.pos.line)

/-- The fault that ends the tokens. -/
def stopFault (s : Surroundings) (stop : Stop) : Fault :=
  let fault := stop.fault
  if stop.complaint.endsQuietly then { fault with complaint := s.placed fault.complaint } else fault

/-- Lines of the text. -/
def linesOf (s : Surroundings) (stretch : Stretch) : List Char :=
  let below := s.lines.drop (stretch.first - s.firstLine)
  ['\n'].intercalate (below.take (stretch.last + 1 - stretch.first))

/-- A fault with its own line. -/
def showLine (s : Surroundings) (fault : Fault) : Fault :=
  { fault with shown := some (s.linesOf ⟨fault.line, fault.line⟩) }

/-- A fault with what is shown of the text once it has been read up to the end of a stretch: all of
the stretch if the fault is not in front of its end, and the line of the fault otherwise. The line of
a text that stands for this one is shown in place of either. -/
def showAt (s : Surroundings) (stretch : Stretch) (fault : Fault) : Fault :=
  match fault.shown, if fault.line = 0 then none else s.stoodFor[fault.line - 1]? with
  | some _, _ => fault
  | none, some line => { fault with shown := some line }
  | none, none =>
    if stretch.last ≤ fault.line then { fault with shown := some (s.linesOf stretch) }
    else s.showLine fault

/-- A fault that is met when a number of tokens have been fetched. -/
def showBehind (s : Surroundings) (reach : Nat) (fault : Fault) : Fault :=
  match s.tokens[reach - 1]? with
  | some t => s.showAt t.stretch fault
  | none => s.showLine fault

/-- A fault that ends the tokens; those that do not end them quietly show their line. -/
def showStop (s : Surroundings) (stop : Stop) : Fault :=
  let fault := s.stopFault stop
  if stop.complaint.endsQuietly then s.showAt stop.stretch fault else s.showLine fault

end Surroundings

def Reading (α : Type) : Type := Surroundings → Cursor → Outcome α

namespace Reading

variable {α β : Type}

instance : Monad Reading where
  pure a := fun _ c => .found a c
  bind p f := fun s c =>
    match p s c with
    | .found a c => f a s c
    | .absent c => .absent c
    | .wrong fault t n => .wrong fault t n

instance : Alternative Reading where
  failure := fun _ c => .absent c
  orElse p q := fun s c =>
    let start := c.index
    match p s c with
    | .absent c => q () s { c with index := start }
    | r => r

/-- Once the lead is found there is no way back to the other alternative. -/
def commit (lead : Reading α) (rest : α → Reading β) (other : Reading β) : Reading β :=
  fun s c =>
    let start := c.index
    match lead s c with
    | .found a c => rest a s c
    | .absent c => other s { c with index := start }
    | .wrong fault t n => .wrong fault t n

/-- What is there if it is there. -/
def maybe (p : Reading α) : Reading (Option α) := (some <$> p) <|> pure none

/-- Whether it is there, without moving on. -/
def ahead (p : Reading α) : Reading Unit := fun s c =>
  let start := c.index
  match p s c with
  | .found _ c => .found () { c with index := start }
  | .absent c => .absent c
  | .wrong fault t n => .wrong fault t n

/-- Succeeds where the other does not. -/
def notAhead (p : Reading α) : Reading Unit := fun s c =>
  let start := c.index
  match p s c with
  | .found _ c => .absent { c with index := start }
  | .absent c => .found () { c with index := start }
  | .wrong fault t n => .wrong fault t n

/-- Repeats a reading that carries a value on, at most as often as there are tokens. -/
def iterate (step : α → Reading α) (a : α) : Reading α := fun s c =>
  go s (s.tokens.size + 1) a c
where
  go (s : Surroundings) : Nat → α → Cursor → Outcome α
    | 0, a, c => .found a c
    | fuel + 1, a, c =>
      let start := c.index
      match step a s c with
      | .found b c => go s fuel b c
      | .absent c => .found a { c with index := start }
      | .wrong fault t n => .wrong fault t n

def many (p : Reading α) : Reading (List α) := do
  let taken ← iterate (fun taken => do return (← p) :: taken) []
  return taken.reverse

def many1 (p : Reading α) : Reading (List α) := do
  let a ← p
  return a :: (← many p)

/-- One or more with separators between them; a separator behind the last one is left. -/
def sepBy1 (p : Reading α) (separator : Reading β) : Reading (List α) := do
  let a ← p
  return a :: (← many (do let _ ← separator; p))

/-- The token at the place. -/
def peek : Reading Token := fun s c =>
  match s.tokens[c.index]? with
  | some t => .found t { c with reach := max c.reach (c.index + 1) }
  | none =>
    match s.stop with
    | some stop => .wrong (s.showStop stop) true c.reach
    | none => .absent c

/-- Where the next token stands. -/
def here : Reading Position := do return (← peek).pos

def token (test : Token → Bool) : Reading Token := do
  let t ← peek
  if test t then fun _ c => .found t { c with index := c.index + 1 } else failure

def symbol (lexeme : String) : Reading Token :=
  token fun t => t.kind == .symbol && t.lexeme == lexeme

def keyword (lexeme : String) : Reading Token :=
  token fun t => t.kind == .keyword && t.lexeme == lexeme

/-- A word that is a keyword at this place only. -/
def softKeyword (lexeme : String) : Reading Token :=
  token fun t => t.kind == .name && t.lexeme == lexeme

def ofKind (kind : TokenKind) : Reading Token := token fun t => t.kind == kind

def name : Reading Token := ofKind .name

/-- Ends the attempt with a complaint about a line. -/
def complainAt (line : Nat) (complaint : Complaint) : Reading α := fun s c =>
  .wrong (s.showBehind c.reach ⟨s.placed complaint, line, none⟩) false c.reach

/-- Ends the attempt with a complaint about the line of the last token fetched. -/
def complain (complaint : Complaint) : Reading α := fun s c =>
  .wrong (s.showBehind c.reach ⟨s.placed complaint, s.lineBefore c.reach, none⟩) false c.reach

/-- A symbol without which the attempt ends. -/
def force (lexeme : String) : Reading Token := do
  let t ← peek
  symbol lexeme <|> complainAt t.pos.line (.expected lexeme)

/-- The token just passed. -/
def passed : Reading Token := fun s c =>
  match s.tokens[c.index - 1]? with
  | some t => .found t c
  | none => .absent c

/-- Looks for what is wrong, and finds nothing if it finds nothing wrong. -/
def diagnose (p : Reading Unit) : Reading α := fun s c =>
  if s.diagnosing then
    let start := c.index
    match p s c with
    | .found _ c => .absent { c with index := start }
    | .absent c => .absent c
    | .wrong fault t n => .wrong fault t n
  else .absent c

/-- Reads without looking for what is wrong. -/
def plainly (p : Reading α) : Reading α := fun s c => p { s with diagnosing := false } c

/-- Reads without remembering what has been found on the way. -/
def aside (p : Reading α) : Reading α := fun s c =>
  match p s c with
  | .found a d => .found a { d with memory := c.memory }
  | .absent d => .absent { d with memory := c.memory }
  | .wrong fault t n => .wrong fault t n

/-- Hands the inside of a placeholder to the reading of its expression. -/
def placeholder (pos : Position) (cs : List Char) : Reading Expr := fun s c =>
  match s.placeholder pos cs with
  | .ok e => .found e c
  | .error fault => .wrong fault false c.reach

/-- What is remembered of a nonterminal at a place. -/
def remembered? (r : Nonterminal) : List Remembered → Option (Option (r.Value × Nat))
  | [] => none
  | m :: rest => if h : m.rule = r then some (h ▸ m.result) else remembered? r rest

def remember (c : Cursor) (start : Nat) (m : Remembered) : Cursor :=
  { c with memory := c.memory.modify start (m :: ·) }

/-- Remembers what a nonterminal finds, and does not look for it twice at one place. -/
def remembering (r : Nonterminal) (p : Reading r.Value) : Reading r.Value := do
  let _ ← peek
  fun s c =>
    let start := c.index
    match remembered? r (c.memory.getD start []) with
    | some (some (a, stop)) => .found a { c with index := stop }
    | some none => .absent c
    | none =>
      match p s c with
      | .found a c => .found a (remember c start ⟨r, some (a, c.index)⟩)
      | .absent c => .absent (remember { c with index := start } start ⟨r, none⟩)
      | .wrong fault t n => .wrong fault t n

end Reading

/-- A reading for every nonterminal. -/
abbrev Grammar : Type := (r : Nonterminal) → Reading r.Value

end SourceConventions.Syntax
