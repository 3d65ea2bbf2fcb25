import SourceConventions.Syntax.Tree
import SourceConventions.Text.Quoted

/-!
# Expressions as text

`Expr.written?` writes an expression in one normal form on one line. A child is put in parentheses
if it binds less tightly than its parent, or as tightly on the side to which the parent does not
associate. Integers that are too long to be written have no form.
-/

namespace SourceConventions.Syntax

namespace BinaryOperator

/-- How tightly an operator binds. -/
def strength : BinaryOperator → Nat
  | .bitOr => 7
  | .bitXor => 8
  | .bitAnd => 9
  | .shiftLeft | .shiftRight => 10
  | .add | .subtract => 11
  | .multiply | .matrixMultiply | .divide | .floorDivide | .remainder => 12
  | .power => 14

end BinaryOperator

namespace ExprKind

/-- How tightly an expression of this kind binds. -/
def strength : ExprKind → Nat
  | .lambda => 0
  | .conditional => 1
  | .logical .or => 2
  | .logical .and => 3
  | .unary .not => 4
  | .walrus => 5
  | .comparison _ => 6
  | .binary op => op.strength
  | .unary _ => 13
  | .await => 15
  | _ => 16

def associatesLeft : ExprKind → Bool
  | .binary .power | .conditional => false
  | _ => true

end ExprKind

namespace Constant

def written? : Constant → Option String
  | .nothing => some "None"
  | .bool true => some "True"
  | .bool false => some "False"
  | .ellipsis => some "..."
  | .number n => n.text?
  | .text s => some (Text.quotedString s)
  | .octets ns => some (String.ofList (Text.quotedOctets ns))

end Constant

/-- A child that has been written. -/
structure Written where
  role : Role
  kind : ExprKind
  text : String

namespace Written

/-- A child as it stands to the left or right within its parent. -/
def within (parent : ExprKind) (isLeft : Bool) (w : Written) : String :=
  if w.kind.strength < parent.strength
      || (w.kind.strength == parent.strength && isLeft != parent.associatesLeft) then
    s!"({w.text})"
  else w.text

/-- The texts of the children in a role. -/
def texts (role : Role) (ws : List Written) : List String :=
  (ws.filter (·.role = role)).map Written.text

def first (role : Role) (ws : List Written) : String := (texts role ws).headD ""

def find (role : Role) (ws : List Written) : Written :=
  (ws.find? (·.role = role)).getD ⟨role, .tuple, ""⟩

def commas (ss : List String) : String := ", ".intercalate ss

def isNumeral (s : String) : Bool := !s.isEmpty && s.toList.all Char.isDigit

/-- A text without its first and its last characters. -/
def inner (front back : Nat) (s : String) : String :=
  String.ofList ((s.toList.drop front).take (s.toList.length - front - back))

def doubleBraces (s : String) : String :=
  String.ofList (s.toList.flatMap fun c => if c == '\x7b' || c == '\x7d' then [c, c] else [c])

/-- A part of a joined text: characters are escaped and braces doubled. -/
def joinedPart (w : Written) : String :=
  match w.kind with
  | .constant _ => doubleBraces (inner 1 1 w.text)
  | _ => w.text

/-- The first kind of quotes that a text does not hold, the last kind if it holds all. -/
def quotesFor (s : String) : String :=
  let occurs (q : String) : Bool := (s.splitOn q).length ≠ 1
  (["'", "\"", "\"\"\""].find? (!occurs ·)).getD "'''"

def joinedText (ws : List Written) : String :=
  let body := String.join (ws.map joinedPart)
  let quotes := quotesFor body
  "f" ++ quotes ++ body ++ quotes

/-- Parameters with defaults, of which the last belongs to the last parameter. -/
def withDefaults (offset : Int) (defaults : List (Option String)) (names : List String) : String :=
  commas (names.zipIdx.map fun (name, i) =>
    if (i : Int) < offset then name
    else
      match defaults.getD ((i : Int) - offset).toNat none with
      | some text => name ++ "=" ++ text
      | none => name)

/-- The parameters of a lambda. Of the defaults of positional parameters, as many as there are
parameters with a name for the caller are taken for those from the end; the others go to the
parameters before the slash, counted from the front with those at the end left out. -/
def signatureText (s : Signature) (ws : List Written) : String :=
  let defaults := (texts .default ws).map some
  let count := defaults.length
  let named := s.positional.length
  let late := if named = 0 then defaults else defaults.drop (count - named)
  let early :=
    if named ≤ count then defaults.take (count - named)
    else defaults.take (count - (named - count))
  let offset (names : List Parameter) (ds : List (Option String)) : Int :=
    names.length - ds.length
  let keywordDefaults := fill (s.keywordOnly.map Parameter.defaulted) (texts .keywordDefault ws)
  commas
    ((if s.positionalOnly.isEmpty then []
      else [withDefaults (offset s.positionalOnly early) early (names s.positionalOnly), "/"])
    ++ (if s.positional.isEmpty then []
      else [withDefaults (offset s.positional late) late (names s.positional)])
    ++ (match s.rest with
      | some p => ["*" ++ p.name]
      | none => [])
    ++ (if s.keywordOnly.isEmpty then []
      else (if s.rest.isNone then ["*"] else [])
        ++ [withDefaults 0 keywordDefaults (names s.keywordOnly)])
    ++ (match s.keywords with
      | some p => ["**" ++ p.name]
      | none => []))
where
  names (ps : List Parameter) : List String := ps.map Parameter.name
  /-- One default for each parameter that has one. -/
  fill : List Bool → List String → List (Option String)
    | true :: flags, d :: ds => some d :: fill flags ds
    | _ :: flags, ds => none :: fill flags ds
    | [], _ => []

/-- Keys and values in turn. -/
def dictItems : List Written → List String
  | key :: value :: rest =>
    (match key.kind with
    | .unpackMark => "**" ++ value.text
    | _ => key.text ++ ": " ++ value.text) :: dictItems rest
  | _ => []

/-- An element and the clauses that it is taken from. -/
def comprehensionText (element : String) (ws : List Written) : String :=
  element ++ " " ++ " ".intercalate (texts .clause ws)

def comparisonText (kind : ExprKind) (ops : List Comparator) : List Written → String
  | [] => ""
  | left :: rest =>
    left.within kind true ++ " "
      ++ " ".intercalate
        ((ops.zip rest).map fun (op, w) => op.symbol ++ " " ++ w.within kind false)

/-- An expression whose children have been written; `parent` is the kind of the expression above
it, if it is not a statement. -/
def assemble (parent : Option ExprKind) (kind : ExprKind) (ws : List Written) : String :=
  match kind with
  | .name n | .binding n | .deletion n => n
  | .attribute n | .attributeTarget n =>
    let left := (find .value ws).within kind true
    (if isNumeral left then "(" ++ left ++ ")" else left) ++ "." ++ n
  | .constant _ => ""
  | .joined => joinedText ws
  | .placeholder conversion =>
    let mark := match conversion with
      | some c => String.ofList ['!', c]
      | none => ""
    let format := match ws.find? (·.role = .format) with
      | some w => ":" ++ inner 2 1 w.text
      | none => ""
    "\x7b" ++ first .value ws ++ mark ++ format ++ "\x7d"
  | .logical op =>
    (" " ++ op.symbol ++ " ").intercalate (ws.map (within kind true))
  | .walrus =>
    let text := first .target ws ++ " := " ++ first .value ws
    match parent with
    | some (.comparison _) => text
    | _ => "(" ++ text ++ ")"
  | .binary op =>
    match ws with
    | [a, b] =>
      let gap := if op = .power then "" else " "
      a.within kind true ++ gap ++ op.symbol ++ gap ++ b.within kind false
    | _ => ""
  | .unary op => op.symbol ++ String.join (ws.map (within kind true))
  | .lambda =>
    let ps := first .arguments ws
    (if ps.isEmpty then "lambda" else "lambda " ++ ps) ++ ": " ++ first .body ws
  | .conditional =>
    (find .body ws).within kind true ++ " if " ++ (find .test ws).within kind true ++ " else "
      ++ (find .otherwise ws).within kind false
  | .dict => "\x7b" ++ commas (dictItems ws) ++ "\x7d"
  | .unpackMark => "**"
  | .set => "\x7b" ++ commas (texts .element ws) ++ "\x7d"
  | .list => "[" ++ commas (texts .element ws) ++ "]"
  | .tuple =>
    match texts .element ws with
    | [e] => "(" ++ e ++ ", )"
    | es => "(" ++ commas es ++ ")"
  | .listComprehension => "[" ++ comprehensionText (first .element ws) ws ++ "]"
  | .setComprehension => "\x7b" ++ comprehensionText (first .element ws) ws ++ "\x7d"
  | .dictComprehension =>
    "\x7b" ++ comprehensionText (first .key ws ++ ": " ++ first .value ws) ws ++ "\x7d"
  | .generator => "(" ++ comprehensionText (first .element ws) ws ++ ")"
  | .clause isAsync =>
    (if isAsync then "async for " else "for ") ++ first .target ws ++ " in "
      ++ first .iterable ws ++ String.join ((texts .condition ws).map (" if " ++ ·))
  | .await => "await " ++ first .value ws
  | .yield => yielded "yield" ws
  | .yieldFrom => yielded "yield from" ws
  | .comparison ops => comparisonText kind ops ws
  | .call =>
    (find .function ws).within kind true ++ "("
      ++ commas (texts .argument ws ++ texts .keyword ws) ++ ")"
  | .keyword none => "**" ++ first .value ws
  | .keyword (some n) => n ++ "=" ++ first .value ws
  | .subscript =>
    let index := find .index ws
    let text :=
      if index.kind = .tuple && index.text ≠ "()" then inner 1 1 index.text else index.text
    (find .value ws).within kind true ++ "[" ++ text ++ "]"
  | .slice =>
    let step := first .step ws
    first .lower ws ++ ":" ++ first .upper ws ++ (if step.isEmpty then "" else ":" ++ step)
  | .starred => "*" ++ first .value ws
  | .arguments s => signatureText s ws
  | _ => ""
where
  yielded (word : String) (ws : List Written) : String :=
    let text := " ".intercalate (word :: texts .value ws)
    if parent.isNone then text else "(" ++ text ++ ")"

end Written

namespace Expr

mutual

/-- The text of an expression below a parent of some kind, `none` standing for a statement. -/
def written? (parent : Option ExprKind) : Expr → Option String
  | mk _ (.constant c) _ _ => c.written?
  | mk _ k _ c => (writtenAll? k c).map (Written.assemble parent k)

def writtenAll? (parent : ExprKind) : List Expr → Option (List Written)
  | [] => some []
  | e :: rest =>
    match written? (some parent) e, writtenAll? parent rest with
    | some text, some ws => some (⟨e.role, e.kind, text⟩ :: ws)
    | _, _ => none

end

end Expr

end SourceConventions.Syntax
