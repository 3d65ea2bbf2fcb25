import SourceConventions.Text.Escape
import SourceConventions.Text.Quoted

/-!
# Why a text is no program

A complaint is the cause; `Complaint.text` words it. Complaints about tokens come first, then those
about literals and then those about the way tokens follow each other.
-/

namespace SourceConventions.Syntax

/-- What kind of number a malformed literal was meant to be. -/
inductive NumberKind where
  | decimal
  | hexadecimal
  | octal
  | binary
  | imaginary
  deriving DecidableEq, Repr

def NumberKind.name : NumberKind → String
  | .decimal => "decimal"
  | .hexadecimal => "hexadecimal"
  | .octal => "octal"
  | .binary => "binary"
  | .imaginary => "imaginary"

/-- How an expression is used where it cannot be. -/
inductive Misuse where
  | assign
  | assignHere
  | delete
  deriving DecidableEq, Repr

inductive Complaint where
  -- tokens
  | nullCharacter
  | unexpectedEnd
  | neverClosed (bracket : Char)
  | unterminatedText (line : Nat)
  | unterminatedLongText (line : Nat)
  | inconsistentTabs
  | unmatchedDedent
  | tooManyIndents
  | strayContinuation
  | tooManyBrackets
  | unmatchedBracket (bracket : Char)
  | mismatchedBracket (closing opening : Char) (line : Option Nat)
  | invalidCharacter (c : Char)
  | unprintableCharacter (c : Char)
  | invalidNumber (kind : NumberKind)
  | invalidDigit (digit : Char) (kind : NumberKind)
  | leadingZeros
  -- literals
  | tooManyDigits (count : Nat)
  | escape (start stop : Nat) (fault : Text.EscapeFault)
  | octetEscape (start : Nat)
  | nonAsciiOctets
  | mixedLiterals
  | placeholderEmpty
  /-- There is no expression in front of a character that ends one. -/
  | placeholderBare (ending : Char)
  | placeholderOpen
  | placeholderLoneBrace
  | placeholderBackslash
  | placeholderComment
  | placeholderUnterminated
  | placeholderUnmatched (bracket : Char)
  | placeholderMismatched (closing opening : Char)
  | placeholderBrackets
  | placeholderDepth
  | placeholderNoConversion
  | placeholderConversion (text : String)
  -- blocks
  | invalid
  | unexpectedIndent
  | unexpectedDedent
  | expected (what : String)
  | expectedElse
  | expectedHandler
  | expectedBlock
  | expectedBlockAfter (what : String) (line : Nat)
  | expectedExceptionTypes
  | mixedHandlers
  | unparenthesizedExceptions
  -- expressions
  | missingComma
  | comparisonOrWalrus
  | missingCallParentheses (name : String)
  | walrusTarget (what : String)
  | cannot (misuse : Misuse) (what : String)
  | cannotAssignYield
  | augmentedTarget (what : String)
  | annotatedMany (what : String)
  | annotatedTarget
  | keyWithoutValue
  | keyWithoutColon
  | starredValue
  | starredGroup
  | doubleStarredGroup
  | starredComprehension
  | unpackedComprehension
  | bareComprehensionTarget
  | bareGenerator
  | positionalAfterKeyword
  | positionalAfterUnpacking
  | iterableAfterUnpacking
  | assignmentInCall
  | trailingImportComma
  -- parameters
  | defaultOrder
  | parenthesizedParameters
  | parenthesizedLambdaParameters
  | slashFirst
  | slashTwice
  | slashAfterStar
  | slashWithoutComma
  | missingDefault
  | bareStar
  | bareStarTypeComment
  | starDefault
  | starTwice
  | keywordsDefault
  | afterKeywords
  | twoTypeComments
  -- patterns
  | realPart
  | imaginaryPart
  | wildcardTarget
  | patternTarget
  | positionalPatterns
  /-- A complaint about the inside of a placeholder. -/
  | inPlaceholder (inner : Complaint)
  deriving DecidableEq, Repr

namespace Complaint

def codePoint (c : Char) : String :=
  String.ofList ('U' :: '+' :: (Text.hexDigits 4 c.toNat).map Char.toUpper)

def inQuotes (c : Char) : String := String.ofList ['\'', c, '\'']

def text : Complaint → String
  | .nullCharacter => "source code string cannot contain null bytes"
  | .unexpectedEnd => "unexpected EOF while parsing"
  | .neverClosed c => inQuotes c ++ " was never closed"
  | .unterminatedText n => s!"unterminated string literal (detected at line {n})"
  | .unterminatedLongText n =>
    s!"unterminated triple-quoted string literal (detected at line {n})"
  | .inconsistentTabs => "inconsistent use of tabs and spaces in indentation"
  | .unmatchedDedent => "unindent does not match any outer indentation level"
  | .tooManyIndents => "too many levels of indentation"
  | .strayContinuation => "unexpected character after line continuation character"
  | .tooManyBrackets => "too many nested parentheses"
  | .unmatchedBracket c => "unmatched " ++ inQuotes c
  | .mismatchedBracket closing opening line =>
    "closing parenthesis " ++ inQuotes closing ++ " does not match opening parenthesis "
      ++ inQuotes opening ++ (match line with
        | none => ""
        | some n => s!" on line {n}")
  | .invalidCharacter c => s!"invalid character {inQuotes c} ({codePoint c})"
  | .unprintableCharacter c => s!"invalid non-printable character {codePoint c}"
  | .invalidNumber kind => s!"invalid {kind.name} literal"
  | .invalidDigit d kind => s!"invalid digit {inQuotes d} in {kind.name} literal"
  | .leadingZeros =>
    "leading zeros in decimal integer literals are not permitted; "
      ++ "use an 0o prefix for octal integers"
  | .tooManyDigits n =>
    s!"Exceeds the limit (4300 digits) for integer string conversion: value has {n} digits; "
      ++ "use sys.set_int_max_str_digits() to increase the limit - "
      ++ "Consider hexadecimal for huge integer literals to avoid decimal conversion limits."
  | .escape start stop fault =>
    if stop = start + 1 then
      s!"(unicode error) 'unicodeescape' codec can't decode byte 0x5c in position {start}: "
        ++ fault.text
    else
      s!"(unicode error) 'unicodeescape' codec can't decode bytes in position {start}-{stop - 1}: "
        ++ fault.text
  | .octetEscape start => s!"(value error) invalid \\x escape at position {start}"
  | .nonAsciiOctets => "bytes can only contain ASCII literal characters"
  | .mixedLiterals => "cannot mix bytes and nonbytes literals"
  | .placeholderEmpty => "f-string: empty expression not allowed"
  | .placeholderBare c => "f-string: expression required before " ++ inQuotes c
  | .placeholderOpen => "f-string: expecting '\x7d'"
  | .placeholderLoneBrace => "f-string: single '\x7d' is not allowed"
  | .placeholderBackslash => "f-string expression part cannot include a backslash"
  | .placeholderComment => "f-string expression part cannot include '#'"
  | .placeholderUnterminated => "f-string: unterminated string"
  | .placeholderUnmatched c => "f-string: unmatched " ++ inQuotes c
  | .placeholderMismatched closing opening =>
    "f-string: closing parenthesis " ++ inQuotes closing
      ++ " does not match opening parenthesis " ++ inQuotes opening
  | .placeholderBrackets => "f-string: too many nested parenthesis"
  | .placeholderDepth => "f-string: expressions nested too deeply"
  | .placeholderNoConversion => "f-string: missed conversion character"
  | .placeholderConversion text =>
    "f-string: invalid conversion character " ++ Text.quotedString text
      ++ ": expected 's', 'r', or 'a'"
  | .invalid => "invalid syntax"
  | .unexpectedIndent => "unexpected indent"
  | .unexpectedDedent => "unexpected unindent"
  | .expected what => s!"expected '{what}'"
  | .expectedElse => "expected 'else' after 'if' expression"
  | .expectedHandler => "expected 'except' or 'finally' block"
  | .expectedBlock => "expected an indented block"
  | .expectedBlockAfter what n => s!"expected an indented block after {what} on line {n}"
  | .expectedExceptionTypes => "expected one or more exception types"
  | .mixedHandlers => "cannot have both 'except' and 'except*' on the same 'try'"
  | .unparenthesizedExceptions => "multiple exception types must be parenthesized"
  | .missingComma => "invalid syntax. Perhaps you forgot a comma?"
  | .comparisonOrWalrus => "invalid syntax. Maybe you meant '==' or ':=' instead of '='?"
  | .missingCallParentheses name =>
    s!"Missing parentheses in call to '{name}'. Did you mean {name}(...)?"
  | .walrusTarget what => s!"cannot use assignment expressions with {what}"
  | .cannot .assign what => s!"cannot assign to {what}"
  | .cannot .assignHere what =>
    s!"cannot assign to {what} here. Maybe you meant '==' instead of '='?"
  | .cannot .delete what => s!"cannot delete {what}"
  | .cannotAssignYield => "assignment to yield expression not possible"
  | .augmentedTarget what => s!"'{what}' is an illegal expression for augmented assignment"
  | .annotatedMany what => s!"only single target (not {what}) can be annotated"
  | .annotatedTarget => "illegal target for annotation"
  | .keyWithoutValue => "expression expected after dictionary key and ':'"
  | .keyWithoutColon => "':' expected after dictionary key"
  | .starredValue => "cannot use a starred expression in a dictionary value"
  | .starredGroup => "cannot use starred expression here"
  | .doubleStarredGroup => "cannot use double starred expression here"
  | .starredComprehension => "iterable unpacking cannot be used in comprehension"
  | .unpackedComprehension => "dict unpacking cannot be used in dict comprehension"
  | .bareComprehensionTarget =>
    "did you forget parentheses around the comprehension target?"
  | .bareGenerator => "Generator expression must be parenthesized"
  | .positionalAfterKeyword => "positional argument follows keyword argument"
  | .positionalAfterUnpacking => "positional argument follows keyword argument unpacking"
  | .iterableAfterUnpacking =>
    "iterable argument unpacking follows keyword argument unpacking"
  | .assignmentInCall =>
    "expression cannot contain assignment, perhaps you meant \"==\"?"
  | .trailingImportComma => "trailing comma not allowed without surrounding parentheses"
  | .defaultOrder => "non-default argument follows default argument"
  | .parenthesizedParameters => "Function parameters cannot be parenthesized"
  | .parenthesizedLambdaParameters => "Lambda expression parameters cannot be parenthesized"
  | .slashFirst => "at least one argument must precede /"
  | .slashTwice => "/ may appear only once"
  | .slashAfterStar => "/ must be ahead of *"
  | .slashWithoutComma => "expected comma between / and *"
  | .missingDefault => "expected default value expression"
  | .bareStar => "named arguments must follow bare *"
  | .bareStarTypeComment => "bare * has associated type comment"
  | .starDefault => "var-positional argument cannot have default value"
  | .starTwice => "* argument may appear only once"
  | .keywordsDefault => "var-keyword argument cannot have default value"
  | .afterKeywords => "arguments cannot follow var-keyword argument"
  | .twoTypeComments => "Cannot have two type comments on def"
  | .realPart => "real number required in complex literal"
  | .imaginaryPart => "imaginary number required in complex literal"
  | .wildcardTarget => "cannot use '_' as a target"
  | .patternTarget => "invalid pattern target"
  | .positionalPatterns => "positional patterns follow keyword patterns"
  | .inPlaceholder inner => "f-string: " ++ inner.text

/-- Complaints of the token stream that end it without taking back an earlier complaint. -/
def endsQuietly : Complaint → Bool
  | .unexpectedEnd | .neverClosed _ | .inconsistentTabs | .unmatchedDedent | .tooManyIndents
  | .strayContinuation => true
  | _ => false

end Complaint

/-- A complaint about one line of a text. -/
structure Fault where
  complaint : Complaint
  line : Nat
  /-- The text that is shown with the complaint, as soon as it is known. -/
  shown : Option (List Char)
  deriving DecidableEq, Repr

end SourceConventions.Syntax
