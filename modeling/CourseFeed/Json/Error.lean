import CourseFeed.Decimal.Layout
import CourseFeed.Text.Quoted

/-!
# What can be wrong with a JSON text

A **`Problem`** is a cause: the text breaks the grammar, or it is grammatical and does not have the
shape that its reader wants. An **`Error`** is a problem with its place. Lines count from one, and
a column is the number of bytes of the line that have been read.
-/

namespace CourseFeed.Json

open CourseFeed.Text CourseFeed.Decimal

/-- A place in a text. -/
structure Position where
  line : Nat
  column : Nat
  deriving Repr, DecidableEq

/-- A JSON number: an integer of 64 bits, signed or unsigned, or a binary number. -/
inductive Number where
  | int (value : Int)
  | float (value : Binary64)
  deriving Repr, DecidableEq

/-- Binary numbers show a point or an exponent; places are written out from 0.00001 up to
    seventeen of them. -/
def numberLayout : Layout := ⟨.even, fun point => -4 ≤ point && point ≤ 16, ['.', '0']⟩

/-- The text of a number. -/
def Number.text : Number → String
  | .int value => String.ofList (intText value)
  | .float value => String.ofList (numberLayout.text value)

/-- What stands in a text where something else was wanted. -/
inductive Found where
  | null
  | bool (value : Bool)
  | number (value : Number)
  | text (value : String)
  | list
  | object
  deriving Repr, DecidableEq

/-- The description of what was found. -/
def Found.describe : Found → String
  | .null => "null"
  | .bool value => "boolean `" ++ (if value then "true" else "false") ++ "`"
  | .number (.int value) => "integer `" ++ (Number.int value).text ++ "`"
  | .number (.float value) => "floating point `" ++ (Number.float value).text ++ "`"
  | .text value => "string " ++ quoted value
  | .list => "sequence"
  | .object => "map"

/-- Why a text cannot be read. -/
inductive Problem where
  | endInValue
  | endInText
  | endInList
  | endInObject
  | valueExpected
  | wordExpected
  | colonExpected
  | listSeparatorExpected
  | objectSeparatorExpected
  | keyNotText
  | trailingComma
  | trailingCharacters
  | invalidNumber
  | numberOutOfRange
  | invalidEscape
  | endOfHexEscape
  | loneSurrogate
  | controlCharacter
  | tooDeep
  | wrongType (found : Found) (expected : String)
  | wrongValue (found : Found) (expected : String)
  | wrongLength (length : Nat) (expected : String)
  | missingField (name : String)
  | duplicateField (name : String)
  | unknownVariant (name : String) (known : List String)
  | refused (reason : String)
  deriving Repr, DecidableEq

/-- A problem and its place. -/
structure Error where
  problem : Problem
  position : Position
  deriving Repr, DecidableEq

/-- The wording of a problem. -/
def Problem.message : Problem → String
  | .endInValue => "EOF while parsing a value"
  | .endInText => "EOF while parsing a string"
  | .endInList => "EOF while parsing a list"
  | .endInObject => "EOF while parsing an object"
  | .valueExpected => "expected value"
  | .wordExpected => "expected ident"
  | .colonExpected => "expected `:`"
  | .listSeparatorExpected => "expected `,` or `]`"
  | .objectSeparatorExpected => "expected `,` or `\x7d`"
  | .keyNotText => "key must be a string"
  | .trailingComma => "trailing comma"
  | .trailingCharacters => "trailing characters"
  | .invalidNumber => "invalid number"
  | .numberOutOfRange => "number out of range"
  | .invalidEscape => "invalid escape"
  | .endOfHexEscape => "unexpected end of hex escape"
  | .loneSurrogate => "lone leading surrogate in hex escape"
  | .controlCharacter => "control character (\\u0000-\\u001F) found while parsing a string"
  | .tooDeep => "recursion limit exceeded"
  | .wrongType found expected => "invalid type: " ++ found.describe ++ ", expected " ++ expected
  | .wrongValue found expected => "invalid value: " ++ found.describe ++ ", expected " ++ expected
  | .wrongLength length expected =>
    "invalid length " ++ String.ofList (natText length) ++ ", expected " ++ expected
  | .missingField name => "missing field `" ++ name ++ "`"
  | .duplicateField name => "duplicate field `" ++ name ++ "`"
  | .unknownVariant name known =>
    "unknown variant `" ++ name ++ "`, expected one of " ++
      String.intercalate ", " (known.map fun k => "`" ++ k ++ "`")
  | .refused reason => reason

/-- The wording of an error. -/
def Error.message (e : Error) : String :=
  e.problem.message ++ " at line " ++ String.ofList (natText e.position.line) ++ " column " ++
    String.ofList (natText e.position.column)

end CourseFeed.Json
