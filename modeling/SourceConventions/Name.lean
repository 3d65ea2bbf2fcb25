/-!
# Shapes of names

Shapes are read from the characters of a name. The patterns behind `isSnakeCase`, `isConstant` and
`isCapWords` allow one line feed after the name.
-/

namespace SourceConventions.Name

/-- The characters with a final line feed taken off. -/
def dropFinalLineFeed (cs : List Char) : List Char :=
  if cs.getLast? = some '\n' then cs.dropLast else cs

/-- Underscores, then a character of the first class, then characters of the second. -/
def hasShape (first rest : Char → Bool) (cs : List Char) : Bool :=
  match (dropFinalLineFeed cs).dropWhile (· == '_') with
  | [] => false
  | c :: more => first c && more.all rest

def isSnakeChar (c : Char) : Bool := c.isLower || c.isDigit || c == '_'

def isConstantChar (c : Char) : Bool := c.isUpper || c.isDigit || c == '_'

def isDunder (name : String) : Bool :=
  let cs := name.toList
  4 < cs.length && ['_', '_'].isPrefixOf cs && ['_', '_'].isSuffixOf cs

/-- A name that starts with an underscore and is no special name. -/
def isPrivate (name : String) : Bool :=
  ['_'].isPrefixOf name.toList && !isDunder name

def isSnakeCase (name : String) : Bool :=
  name == "_" || hasShape Char.isLower isSnakeChar name.toList

def isConstant (name : String) : Bool :=
  hasShape Char.isUpper isConstantChar name.toList

def isCapWords (name : String) : Bool :=
  hasShape Char.isUpper Char.isAlphanum name.toList && !isConstant name

/-- The part up to the first underscore, leading underscores left out. -/
def firstWord (name : String) : String :=
  String.ofList ((name.toList.dropWhile (· == '_')).takeWhile (· != '_'))

end SourceConventions.Name
