/-!
# What can be wrong with a pattern

The causes for which a pattern is refused, in three groups: the text breaks the grammar of
patterns, it names a set of characters that does not exist, or it could match half a character.
-/

namespace CourseFeed.Pattern

/-- Why a pattern is refused. -/
inductive Error where
  | classEscapeInvalid
  | classRangeInvalid
  | classRangeBoundary
  | classUnclosed
  | decimalEmpty
  | decimalInvalid
  | hexEmpty
  | hexInvalid
  | hexDigitInvalid
  | escapeAtEnd
  | escapeUnknown
  | flagDanglingNegation
  | flagRepeated
  | flagNegationRepeated
  | flagAtEnd
  | flagUnknown
  | groupNameRepeated
  | groupNameEmpty
  | groupNameInvalid
  | groupNameAtEnd
  | groupUnclosed
  | groupUnopened
  | tooDeep
  | countsReversed
  | countEmpty
  | countUnclosed
  | repetitionMissing
  | boundaryUnclosed
  | boundaryUnknown
  | boundaryAtEnd
  | propertyInvalid
  | backreference
  | lookAround
  | unicodeNotAllowed
  | halfCharacter
  | propertyUnknown
  | propertyValueUnknown
  deriving Repr, DecidableEq

/-- The wording of an error. -/
def Error.message : Error → String
  | .classEscapeInvalid => "invalid escape sequence found in character class"
  | .classRangeInvalid => "invalid character class range, the start must be <= the end"
  | .classRangeBoundary => "invalid range boundary, must be a literal"
  | .classUnclosed => "unclosed character class"
  | .decimalEmpty => "decimal literal empty"
  | .decimalInvalid => "decimal literal invalid"
  | .hexEmpty => "hexadecimal literal empty"
  | .hexInvalid => "hexadecimal literal is not a Unicode scalar value"
  | .hexDigitInvalid => "invalid hexadecimal digit"
  | .escapeAtEnd => "incomplete escape sequence, reached end of pattern prematurely"
  | .escapeUnknown => "unrecognized escape sequence"
  | .flagDanglingNegation => "dangling flag negation operator"
  | .flagRepeated => "duplicate flag"
  | .flagNegationRepeated => "flag negation operator repeated"
  | .flagAtEnd => "expected flag but got end of regex"
  | .flagUnknown => "unrecognized flag"
  | .groupNameRepeated => "duplicate capture group name"
  | .groupNameEmpty => "empty capture group name"
  | .groupNameInvalid => "invalid capture group character"
  | .groupNameAtEnd => "unclosed capture group name"
  | .groupUnclosed => "unclosed group"
  | .groupUnopened => "unopened group"
  | .tooDeep => "exceed the maximum number of nested parentheses/brackets (250)"
  | .countsReversed => "invalid repetition count range, the start must be <= the end"
  | .countEmpty => "repetition quantifier expects a valid decimal"
  | .countUnclosed => "unclosed counted repetition"
  | .repetitionMissing => "repetition operator missing expression"
  | .boundaryUnclosed =>
    "special word boundary assertion is either unclosed or contains an invalid character"
  | .boundaryUnknown =>
    "unrecognized special word boundary assertion, valid choices are: start, end, " ++
      "start-half or end-half"
  | .boundaryAtEnd =>
    "found either the beginning of a special word boundary or a bounded repetition on a " ++
      "\\b with an opening brace, but no closing brace"
  | .propertyInvalid => "invalid Unicode character class"
  | .backreference => "backreferences are not supported"
  | .lookAround => "look-around, including look-ahead and look-behind, is not supported"
  | .unicodeNotAllowed => "Unicode not allowed here"
  | .halfCharacter => "pattern can match invalid UTF-8"
  | .propertyUnknown => "Unicode property not found"
  | .propertyValueUnknown => "Unicode property value not found"

end CourseFeed.Pattern
