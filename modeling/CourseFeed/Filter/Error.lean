import CourseFeed.Filter.Comparison
import CourseFeed.Value.Token

/-!
# What can be wrong with a filter

The causes for which a filter expression is refused, with their wording.
-/

namespace CourseFeed

/-- How an expression breaks the grammar of filters. -/
inductive ExpressionFault where
  | valueMissing
  | valueMissingAfter (operator : Operator)
  | operatorExpectedAfter (name : String)
  deriving Repr, DecidableEq

/-- The wording of a fault in an expression. -/
def ExpressionFault.message : ExpressionFault → String
  | .valueMissing => "missing value"
  | .valueMissingAfter operator => "missing value after operator '" ++ operator.symbol ++ "'"
  | .operatorExpectedAfter name =>
    "expected whitespace or an operator after '" ++ name ++ "'"

/-- Why a filter expression is refused. -/
inductive FilterError where
  | emptyExpression
  | malformed (expression : String) (fault : ExpressionFault)
  | invalidValue (error : TokenError)
  | unsupported (operator kind value : String)
  | unknownExtractor (name : String)
  | noDefaultExtractor
  | noExtractors
  deriving Repr, DecidableEq

/-- The wording of a filter error. -/
def FilterError.message : FilterError → String
  | .emptyExpression => "filter expression is empty"
  | .malformed expression fault => "invalid filter '" ++ expression ++ "': " ++ fault.message
  | .invalidValue error => "invalid filter value: " ++ error.message
  | .unsupported operator kind value =>
    "operator '" ++ operator ++ "' is not supported for " ++ kind ++ " value " ++ value
  | .unknownExtractor name => "unknown extractor '" ++ name ++ "'"
  | .noDefaultExtractor => "no extractor given and no default extractor defined"
  | .noExtractors => "no extractors defined"

end CourseFeed
