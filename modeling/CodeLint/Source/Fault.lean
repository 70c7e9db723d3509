/-!
What can be wrong with a source text. A cause is what is wrong, with its wording in one place; a
syntax fault adds the position. Lines and columns count from one, except that some positions at
the end of the text are given as a column of zero.
-/

namespace CodeLint.Source

inductive Category
  | general
  | indentation
  | tabs
  deriving DecidableEq

inductive Cause
  -- reading tokens
  | nullCharacter
  | invalidCharacter (c : Char) (code : String)
  | unprintableCharacter (code : String)
  | invalidLiteral (kind : String)
  | invalidDigit (c : Char) (kind : String)
  | leadingZeros
  | unterminatedText (line : Nat)
  | unterminatedLongText (line : Nat)
  | tooManyBrackets
  | unmatchedBracket (c : Char)
  | mismatchedBracket (close opening : Char) (line : Option Nat)
  | bracketNeverClosed (c : Char)
  | unexpectedEnd
  | afterContinuation
  | unindentMismatch
  | tabsAndBlanks
  | tooManyIndents
  -- literals
  | tooManyDigits (count : Nat)
  | mixedTextAndBytes
  | nonAsciiBytes
  | undecodable (reason : String)
  | unreadableBytes (reason : String)
  | realRequired
  | imaginaryRequired
  -- formatted texts
  | embedded (cause : Cause)
  | formatBackslash
  | formatComment
  | formatSingleBrace
  | formatNesting
  | formatTooManyBrackets
  | formatUnmatched (c : Char)
  | formatMismatched (close opening : Char)
  | formatUnterminated
  | formatExpectingBrace
  | formatEmpty
  | formatEmptyBefore (c : Char)
  | formatConversion
  -- grammar
  | invalidSyntax
  | unexpectedIndent
  | unexpectedUnindent
  | expected (what : String)
  | expectedBlock
  | expectedBlockAfter (what : String) (line : Nat)
  | missingComma
  | missingElse
  | missingCallBrackets (name : String)
  | assignmentInCondition
  | cannotAssign (what : String)
  | cannotAssignHere (what : String)
  | cannotDelete (what : String)
  | cannotName (what : String)
  | illegalAugmented (what : String)
  | severalAnnotated (what : String)
  | illegalHint
  | assignmentToYield
  | assignmentInCall
  | unpackingOrder
  | positionalAfterKeyword
  | positionalAfterUnpacking
  | bareGenerator
  | unpackingInComprehension
  | comprehensionTarget
  | dictUnpackingInComprehension
  | starredHere
  | doubleStarredHere
  | starredDictValue
  | missingDictValue
  | missingDictColon
  | nonDefaultAfterDefault
  | bracketedParameters
  | bracketedLambdaParameters
  | nothingBeforeSlash
  | secondSlash
  | slashAfterStar
  | slashWithoutComma
  | missingDefault
  | bareStar
  | defaultOfRest
  | defaultOfRestKeywords
  | secondStar
  | afterRestKeywords
  | trailingComma
  | expectedHandler
  | mixedHandlers
  | bareExceptionList
  | expectedExceptionType
  | wildcardTarget
  | patternTarget
  | positionalPatternAfterKeyword
  deriving DecidableEq

namespace Cause

def category : Cause → Category
  | unindentMismatch => .indentation
  | tooManyIndents => .indentation
  | unexpectedIndent => .indentation
  | unexpectedUnindent => .indentation
  | expectedBlock => .indentation
  | expectedBlockAfter _ _ => .indentation
  | tabsAndBlanks => .tabs
  | embedded c => c.category
  | _ => .general

def message : Cause → String
  | nullCharacter => "source code string cannot contain null bytes"
  | invalidCharacter c code => "invalid character '" ++ c.toString ++ "' (U+" ++ code ++ ")"
  | unprintableCharacter code => "invalid non-printable character U+" ++ code
  | invalidLiteral kind => "invalid " ++ kind ++ " literal"
  | invalidDigit c kind => "invalid digit '" ++ c.toString ++ "' in " ++ kind ++ " literal"
  | leadingZeros =>
    "leading zeros in decimal integer literals are not permitted; " ++
      "use an 0o prefix for octal integers"
  | unterminatedText line =>
    "unterminated string literal (detected at line " ++ toString line ++ ")"
  | unterminatedLongText line =>
    "unterminated triple-quoted string literal (detected at line " ++ toString line ++ ")"
  | tooManyBrackets => "too many nested parentheses"
  | unmatchedBracket c => "unmatched '" ++ c.toString ++ "'"
  | mismatchedBracket close opening line =>
    "closing parenthesis '" ++ close.toString ++ "' does not match opening parenthesis '" ++
      opening.toString ++ "'" ++
      match line with
      | some i => " on line " ++ toString i
      | none => ""
  | bracketNeverClosed c => "'" ++ c.toString ++ "' was never closed"
  | unexpectedEnd => "unexpected EOF while parsing"
  | afterContinuation => "unexpected character after line continuation character"
  | unindentMismatch => "unindent does not match any outer indentation level"
  | tabsAndBlanks => "inconsistent use of tabs and spaces in indentation"
  | tooManyIndents => "too many levels of indentation"
  | tooManyDigits count =>
    "Exceeds the limit (4300 digits) for integer string conversion: value has " ++
      toString count ++ " digits; use sys.set_int_max_str_digits() to increase the limit" ++
      " - Consider hexadecimal for huge integer literals to avoid decimal conversion limits."
  | mixedTextAndBytes => "cannot mix bytes and nonbytes literals"
  | nonAsciiBytes => "bytes can only contain ASCII literal characters"
  | undecodable reason => "(unicode error) " ++ reason
  | unreadableBytes reason => "(value error) " ++ reason
  | realRequired => "real number required in complex literal"
  | imaginaryRequired => "imaginary number required in complex literal"
  | embedded cause => "f-string: " ++ cause.message
  | formatBackslash => "f-string expression part cannot include a backslash"
  | formatComment => "f-string expression part cannot include '#'"
  | formatSingleBrace => "f-string: single '\x7d' is not allowed"
  | formatNesting => "f-string: expressions nested too deeply"
  | formatTooManyBrackets => "f-string: too many nested parenthesis"
  | formatUnmatched c => "f-string: unmatched '" ++ c.toString ++ "'"
  | formatMismatched close opening =>
    "f-string: closing parenthesis '" ++ close.toString ++
      "' does not match opening parenthesis '" ++ opening.toString ++ "'"
  | formatUnterminated => "f-string: unterminated string"
  | formatExpectingBrace => "f-string: expecting '\x7d'"
  | formatEmpty => "f-string: empty expression not allowed"
  | formatEmptyBefore c => "f-string: expression required before '" ++ c.toString ++ "'"
  | formatConversion =>
    "f-string: invalid conversion character: expected 's', 'r', or 'a'"
  | invalidSyntax => "invalid syntax"
  | unexpectedIndent => "unexpected indent"
  | unexpectedUnindent => "unexpected unindent"
  | expected what => "expected '" ++ what ++ "'"
  | expectedBlock => "expected an indented block"
  | expectedBlockAfter what line =>
    "expected an indented block after " ++ what ++ " on line " ++ toString line
  | missingComma => "invalid syntax. Perhaps you forgot a comma?"
  | missingElse => "expected 'else' after 'if' expression"
  | missingCallBrackets name =>
    "Missing parentheses in call to '" ++ name ++ "'. Did you mean " ++ name ++ "(...)?"
  | assignmentInCondition =>
    "invalid syntax. Maybe you meant '==' or ':=' instead of '='?"
  | cannotAssign what => "cannot assign to " ++ what
  | cannotAssignHere what =>
    "cannot assign to " ++ what ++ " here. Maybe you meant '==' instead of '='?"
  | cannotDelete what => "cannot delete " ++ what
  | cannotName what => "cannot use assignment expressions with " ++ what
  | illegalAugmented what =>
    "'" ++ what ++ "' is an illegal expression for augmented assignment"
  | severalAnnotated what => "only single target (not " ++ what ++ ") can be annotated"
  | illegalHint => "illegal target for annotation"
  | assignmentToYield => "assignment to yield expression not possible"
  | assignmentInCall => "expression cannot contain assignment, perhaps you meant \"==\"?"
  | unpackingOrder => "iterable argument unpacking follows keyword argument unpacking"
  | positionalAfterKeyword => "positional argument follows keyword argument"
  | positionalAfterUnpacking => "positional argument follows keyword argument unpacking"
  | bareGenerator => "Generator expression must be parenthesized"
  | unpackingInComprehension => "iterable unpacking cannot be used in comprehension"
  | comprehensionTarget => "did you forget parentheses around the comprehension target?"
  | dictUnpackingInComprehension => "dict unpacking cannot be used in dict comprehension"
  | starredHere => "cannot use starred expression here"
  | doubleStarredHere => "cannot use double starred expression here"
  | starredDictValue => "cannot use a starred expression in a dictionary value"
  | missingDictValue => "expression expected after dictionary key and ':'"
  | missingDictColon => "':' expected after dictionary key"
  | nonDefaultAfterDefault => "non-default argument follows default argument"
  | bracketedParameters => "Function parameters cannot be parenthesized"
  | bracketedLambdaParameters => "Lambda expression parameters cannot be parenthesized"
  | nothingBeforeSlash => "at least one argument must precede /"
  | secondSlash => "/ may appear only once"
  | slashAfterStar => "/ must be ahead of *"
  | slashWithoutComma => "expected comma between / and *"
  | missingDefault => "expected default value expression"
  | bareStar => "named arguments must follow bare *"
  | defaultOfRest => "var-positional argument cannot have default value"
  | defaultOfRestKeywords => "var-keyword argument cannot have default value"
  | secondStar => "* argument may appear only once"
  | afterRestKeywords => "arguments cannot follow var-keyword argument"
  | trailingComma => "trailing comma not allowed without surrounding parentheses"
  | expectedHandler => "expected 'except' or 'finally' block"
  | mixedHandlers => "cannot have both 'except' and 'except*' on the same 'try'"
  | bareExceptionList => "multiple exception types must be parenthesized"
  | expectedExceptionType => "expected one or more exception types"
  | wildcardTarget => "cannot use '_' as a target"
  | patternTarget => "invalid pattern target"
  | positionalPatternAfterKeyword => "positional patterns follow keyword patterns"

end Cause

structure SyntaxFault where
  cause : Cause
  line : Option Nat
  column : Option Int
  deriving DecidableEq

namespace SyntaxFault

def lineText (f : SyntaxFault) : String :=
  match f.line with
  | some i => toString i
  | none => "None"

def columnText (f : SyntaxFault) : String :=
  match f.column with
  | some i => toString i
  | none => "None"

def report (f : SyntaxFault) : String :=
  "E999: SyntaxError: " ++ f.cause.message ++ " at line " ++ f.lineText ++ ", column " ++
    f.columnText

end SyntaxFault

end CodeLint.Source
