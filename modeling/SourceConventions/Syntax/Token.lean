import SourceConventions.Syntax.Complaint
import SourceConventions.Syntax.Tree

/-!
# Tokens
-/

namespace SourceConventions.Syntax

inductive TokenKind where
  | name
  | keyword
  | number
  | text
  | symbol
  | lineEnd
  | indent
  | dedent
  | typeComment
  | endMark
  deriving DecidableEq, Repr, Inhabited

/-- Lines that hang together. A line hangs together with the one before it if a text or a joined line
goes on in it. -/
structure Stretch where
  first : Nat
  last : Nat
  deriving DecidableEq, Repr, Inhabited

structure Token where
  kind : TokenKind
  lexeme : String
  pos : Position
  /-- How many brackets are open behind the token. -/
  level : Nat
  /-- The lines that hang together up to the end of the token. -/
  stretch : Stretch
  deriving DecidableEq, Repr, Inhabited

/-- What ends a row of tokens that has no end mark. -/
structure Stop where
  complaint : Complaint
  line : Nat
  /-- The innermost bracket that is open there, and its line. -/
  unclosed : Option (Char × Nat)
  stretch : Stretch
  deriving DecidableEq, Repr

/-- The fault that meeting the stop is. -/
def Stop.fault (s : Stop) : Fault :=
  match s.complaint, s.unclosed with
  | .unexpectedEnd, some (c, line) => ⟨.neverClosed c, line, none⟩
  | complaint, _ => ⟨complaint, s.line, none⟩

/-- The tokens of a text, and the stop at which they break off. -/
structure Tokens where
  items : List Token
  stop : Option Stop
  deriving DecidableEq, Repr

def keywords : List String := [
  "False", "None", "True", "and", "as", "assert", "async", "await", "break", "class", "continue",
  "def", "del", "elif", "else", "except", "finally", "for", "from", "global", "if", "import", "in",
  "is", "lambda", "nonlocal", "not", "or", "pass", "raise", "return", "try", "while", "with",
  "yield"]

/-- Names that are keywords in some places only. -/
def softKeywords : List String := ["_", "case", "match"]

/-- Whether a word is the beginning of one that is a keyword at some places. -/
def startsSoftKeyword (word : String) : Bool :=
  softKeywords.any fun k => word.toList.isPrefixOf k.toList

end SourceConventions.Syntax
