import SourceConventions.Console.Markup
import SourceConventions.Log
import SourceConventions.Text.Casing
import SourceConventions.Text.Margin
import SourceConventions.Text.Width

/-!
# The console of a run

Progress and faults are shown line by line and are written to the log as well. A quiet console
shows faults only.
-/

namespace SourceConventions

structure Console where
  project : String
  colour : String
  welcome : String
  quiet : Bool
  deriving DecidableEq, Repr

inductive Notice where
  | greeting
  | step (message : String)
  | warning (message : String)
  | error (message : String)
  | debug (message : String)
  deriving DecidableEq, Repr

namespace Console

/-- Characters that steer a terminal and are left out. -/
def isControl (c : Char) : Bool :=
  c == '\x07' || c == '\x08' || c == '\x0b' || c == '\x0c' || c == '\r'

def tabWidth : Nat := 8

/-- A line whose tabs are spaces up to the next tab stop. A line starts at `column`, and `taken` is
what it has there since the last tab, the last character first. -/
def expandTabs (column : Nat) (taken : List Char) : List Char → List Char
  | [] => taken.reverse
  | c :: rest =>
    if c = '\t' then
      let field := taken.reverse ++ [' ']
      let stop := column + Text.width field
      let space := (tabWidth - stop % tabWidth) % tabWidth
      field ++ List.replicate space ' ' ++ expandTabs (stop + space) [] rest
    else expandTabs column (c :: taken) rest

/-- What a terminal shows of markup, with a line end. -/
def display (markup : List Char) : Except Markup.Fault String := do
  let shown := (← Markup.plain markup).filter (!isControl ·)
  return String.ofList (['\n'].intercalate ((Text.lines shown).map (expandTabs 0 [])) ++ ['\n'])

def styled (style text message : String) : List Char :=
  s!"[{style}]{text}[/] ".toList ++ Markup.escape message.toList

/-- The markup of a notice; none for what goes to the log only. -/
def markup? (c : Console) : Notice → Option (List Char)
  | .greeting => some (styled s!"bold {c.colour}" c.project c.welcome)
  | .step m => some (styled c.colour ">" m)
  | .warning m => some (styled "yellow" "warning:" m)
  | .error m => some (styled "bold red" "error:" m)
  | .debug _ => none

def isProgress : Notice → Bool
  | .greeting | .step _ => true
  | _ => false

/-- What is printed for a notice. -/
def printed (c : Console) (n : Notice) : Except Markup.Fault String :=
  if c.quiet && isProgress n then .ok ""
  else
    match c.markup? n with
    | some markup => display markup
    | none => .ok ""

def entry (c : Console) (n : Notice) : LogEntry :=
  let source := .console (Text.lowered c.project)
  match n with
  | .greeting => ⟨.info, source, s!"{c.project}: {c.welcome}"⟩
  | .step m => ⟨.info, source, m⟩
  | .warning m => ⟨.warning, source, m⟩
  | .error m => ⟨.error, source, m⟩
  | .debug m => ⟨.debug, source, m⟩

/-- What is logged for a notice; a project without a name has no log. -/
def logged (c : Console) (n : Notice) : List LogEntry :=
  if c.project = "" then [] else [c.entry n]

end Console

/-- The console of the command line. -/
def Console.standard : Console :=
  ⟨"CONVENTIONS", "cyan", "Convention checker online", false⟩

end SourceConventions
