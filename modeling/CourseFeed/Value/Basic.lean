import CourseFeed.Json.Tree
import CourseFeed.Pattern.Compiled

/-!
# Filter values

A **`Value`** is what filters compare: a JSON value, or a pattern. The members of a map are ordered
by name.

* **`Value.same`** is equality: numbers are equal as binary numbers, patterns by their source.
* **`Value.order`** orders numbers with numbers and texts with texts, and nothing else.
* **`Value.text?`** is the plain text of a scalar; **`Value.display`** is a token for the value.
-/

namespace CourseFeed

open CourseFeed.Json CourseFeed.Decimal CourseFeed.Text

/-- A value that filters compare. -/
inductive Value where
  | null
  | bool (value : Bool)
  | number (value : Number)
  | text (value : String)
  | list (items : List Value)
  | map (members : List (String × Value))
  | pattern (value : Pattern)

/-- The binary number nearest to a number. -/
def Json.Number.toBinary : Number → Binary64
  | .int value => .ofInt value
  | .float value => value

namespace Value

mutual

/-- The value of a JSON value. -/
def ofTree : Tree → Value
  | .null => .null
  | .bool value => .bool value
  | .number value => .number value
  | .text value => .text value
  | .list items => .list (ofTrees items)
  | .object members => .map (ofMembers members)

/-- The values of some JSON values. -/
def ofTrees : List Tree → List Value
  | [] => []
  | item :: rest => ofTree item :: ofTrees rest

/-- The values of the members of a JSON object. -/
def ofMembers : List (String × Tree) → List (String × Value)
  | [] => []
  | (name, value) :: rest => (name, ofTree value) :: ofMembers rest

end

/-- An integer as a value. -/
def ofInt (n : Int) : Value := .number (.int n)

/-- A text that may be absent, as a value. -/
def ofText? (text : Option String) : Value := text.elim .null .text

/-- A list of texts as a value. -/
def ofTexts (texts : List String) : Value := .list (texts.map .text)

/-- The name of a value's kind. -/
def kind : Value → String
  | .null => "null"
  | .bool _ => "boolean"
  | .number _ => "number"
  | .text _ => "string"
  | .list _ => "array"
  | .map _ => "object"
  | .pattern _ => "regex"

/-- The name of a truth value. -/
def boolName (b : Bool) : String := if b then "true" else "false"

/-- The plain text of a scalar. -/
def text? : Value → Option String
  | .bool value => some (boolName value)
  | .number value => some value.text
  | .text value => some value
  | .pattern value => some value.source
  | .null | .list _ | .map _ => none

mutual

/-- Whether two values are equal. -/
def same : Value → Value → Bool
  | .null, .null => true
  | .bool a, .bool b => a == b
  | .number a, .number b => a.toBinary.sameValue b.toBinary
  | .text a, .text b => a == b
  | .list a, .list b => sameItems a b
  | .map a, .map b => sameMembers a b
  | .pattern a, .pattern b => a.source == b.source
  | _, _ => false

/-- Whether two lists of values are equal. -/
def sameItems : List Value → List Value → Bool
  | [], [] => true
  | a :: as, b :: bs => same a b && sameItems as bs
  | _, _ => false

/-- Whether two lists of named values are equal. -/
def sameMembers : List (String × Value) → List (String × Value) → Bool
  | [], [] => true
  | (m, a) :: as, (n, b) :: bs => m == n && same a b && sameMembers as bs
  | _, _ => false

end

/-- The order of two numbers or of two texts. -/
def order : Value → Value → Option Ordering
  | .number a, .number b => some (a.toBinary.order b.toBinary)
  | .text a, .text b => some (textOrder a b)
  | _, _ => none

mutual

/-- A token for a value. -/
def display : Value → String
  | .null => "null"
  | .bool value => boolName value
  | .number value => value.text
  | .text value => quoted value
  | .list items => "[" ++ String.intercalate "," (displayItems items) ++ "]"
  | .map members => "\x7b" ++ String.intercalate "," (displayMembers members) ++ "\x7d"
  | .pattern value => "/" ++ value.source ++ "/"

/-- Tokens for some values. -/
def displayItems : List Value → List String
  | [] => []
  | item :: rest => display item :: displayItems rest

/-- Names with tokens for their values. -/
def displayMembers : List (String × Value) → List String
  | [] => []
  | (name, value) :: rest => (quoted name ++ ":" ++ display value) :: displayMembers rest

end

end Value

end CourseFeed
