import CourseFeed.Filter.Extractors

/-!
# Criteria

A filter expression is an optional `!`, an extractor name, an operator and a value; the operator
may be left out, and so may the name together with it. The value takes the rest of the text.

A **`Criterion`** is an expression as understood: what its value is asked, and whether the answer
is turned round. **`Criterion.parse`** reads an expression and checks it against a table of
extractors, so that a criterion that was read can always be asked.
-/

namespace CourseFeed

open CourseFeed.Text

/-- A filter expression as understood. -/
structure Criterion where
  /-- The expression as written, without blanks at its ends. -/
  source : String
  /-- The value that is asked. -/
  value : Value
  /-- What the value is asked. -/
  comparison : Comparison
  /-- The operator as written. -/
  operator : Option Operator
  /-- The name of the extractor as written. -/
  extractor : Option String
  /-- Whether the answer is turned round: by a leading `!` or by the operator, not by both. -/
  negate : Bool

/-- Whether a character may begin a name. -/
def isNameStart (c : Char) : Bool := c.isAlpha || c = '_'

/-- Whether a character may stand in a name. -/
def isNameChar (c : Char) : Bool := c.isAlphanum || c = '_'

/-- Cuts the name off the front of a text; it is empty where no name stands. -/
def splitName (text : List Char) : List Char × List Char :=
  match text with
  | c :: rest => if isNameStart c then (c :: rest.takeWhile isNameChar, rest.dropWhile isNameChar)
    else ([], text)
  | [] => ([], [])

/-- Whether a text begins with a blank. -/
def startsBlank (text : List Char) : Bool := text.head?.any isBlank

/-- The parts of an expression behind its `!`. -/
structure ExpressionParts where
  extractor : Option String
  operator : Option Operator
  value : String

namespace ExpressionParts

/-- The text of a value behind an operator. -/
def operatorValue (expression : String) (op : Operator) (text : List Char) :
    Except FilterError String :=
  let value := trimBlanks text
  if value.isEmpty then .error (.malformed expression (.valueMissingAfter op))
  else .ok (String.ofList value)

/-- The operator that is a word at the front of a text and ends there or before a blank. -/
def wordOperator? (text : List Char) : Option (Operator × List Char) :=
  let (word, tail) := splitName text
  (Operator.word? word).bind fun op =>
    if tail.isEmpty || startsBlank tail then some (op, tail) else none

/-- Cuts an expression without its `!` into its parts. -/
def split (expression : String) (text : List Char) : Except FilterError ExpressionParts :=
  let (name, after) := splitName text
  if name.isEmpty || (trimBlanks after).isEmpty then .ok ⟨none, none, String.ofList text⟩
  else
    let name := String.ofList name
    let rest := dropBlanks after
    match Operator.sign? rest with
    | some (op, tail) => do
      return ⟨some name, some op, ← operatorValue expression op tail⟩
    | none =>
      if ¬ startsBlank after then
        .error (.malformed expression (.operatorExpectedAfter name))
      else
        match wordOperator? rest with
        | some (op, tail) => do
          return ⟨some name, some op, ← operatorValue expression op tail⟩
        | none => .ok ⟨some name, none, String.ofList rest⟩

end ExpressionParts

namespace Criterion

/-- Whether an expression is negated, and what stands behind its `!`. -/
def splitNegation (text : List Char) : Bool × List Char :=
  match text with
  | '!' :: rest => (true, dropBlanks rest)
  | _ => (false, text)

/-- Reads the value of an expression. -/
def readValue (expression token : String) : Except FilterError Value :=
  match Value.parse token with
  | .ok (some value) => .ok value
  | .ok none => .error (.malformed expression .valueMissing)
  | .error e => .error (.invalidValue e)

/-- Reads an expression and checks it against a table of extractors. -/
def parse (expression : String) (table : Extractors ε) : Except FilterError Criterion := do
  let source := trim expression
  if source.isEmpty then .error .emptyExpression
  else if table.isEmpty then .error .noExtractors
  else
    let (negated, text) := splitNegation source.toList
    let parts ← ExpressionParts.split source text
    let value ← readValue source parts.value
    let _ ← table.resolve parts.extractor
    let comparison := parts.operator.elim (.ofValue value) Operator.comparison
    if comparison.supports value then
      return {
        source := source
        value := value
        comparison := comparison
        operator := parts.operator
        extractor := parts.extractor
        negate := negated != parts.operator.any Operator.negates }
    else
      .error (.unsupported (parts.operator.elim comparison.name Operator.symbol) value.kind
        value.display)

/-- Whether a field meets a criterion. -/
def accepts (c : Criterion) (field : Value) : Bool :=
  c.comparison.holds c.value field != c.negate

end Criterion

end CourseFeed
