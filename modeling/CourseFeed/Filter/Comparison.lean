import CourseFeed.Value.Relations

/-!
# Comparisons and operators

A **`Comparison`** asks the value of a filter about a field, so `year < 2016` asks whether 2016 is
greater than the year. An **`Operator`** is how a comparison is written; one operator also negates
its comparison.
-/

namespace CourseFeed

/-- What a filter's value is asked about a field. -/
inductive Comparison where
  | equals
  | notEquals
  | greaterThan
  | greaterOrEqual
  | lessThan
  | lessOrEqual
  | isMatch
  | contains
  | hasKey
  | hasValue
  deriving Repr, DecidableEq

namespace Comparison

/-- All comparisons. -/
def all : List Comparison :=
  [.equals, .notEquals, .greaterThan, .greaterOrEqual, .lessThan, .lessOrEqual, .isMatch,
    .contains, .hasKey, .hasValue]

/-- The name of a comparison. -/
def name : Comparison → String
  | .equals => "equals"
  | .notEquals => "not_equals"
  | .greaterThan => "greater_than"
  | .greaterOrEqual => "greater_or_equal"
  | .lessThan => "less_than"
  | .lessOrEqual => "less_or_equal"
  | .isMatch => "matches"
  | .contains => "contains"
  | .hasKey => "has_key"
  | .hasValue => "has_value"

/-- The comparison that a value stands for without an operator. -/
def ofValue : Value → Comparison
  | .list _ | .map _ => .contains
  | .pattern _ => .isMatch
  | _ => .equals

/-- Whether a comparison makes sense for a value. -/
def supports : Comparison → Value → Bool
  | .equals, _ | .notEquals, _ => true
  | .greaterThan, .number _ | .greaterThan, .text _ => true
  | .greaterOrEqual, .number _ | .greaterOrEqual, .text _ => true
  | .lessThan, .number _ | .lessThan, .text _ => true
  | .lessOrEqual, .number _ | .lessOrEqual, .text _ => true
  | .isMatch, .pattern _ => true
  | .contains, .list _ | .contains, .map _ | .contains, .text _ => true
  | .hasKey, .map _ | .hasValue, .map _ => true
  | _, _ => false

/-- The answer of a value about a field. -/
def holds (c : Comparison) (value field : Value) : Bool :=
  match c with
  | .equals => value.same field
  | .notEquals => !value.same field
  | .greaterThan => value.order field == some .gt
  | .greaterOrEqual => value.order field == some .gt || value.order field == some .eq
  | .lessThan => value.order field == some .lt
  | .lessOrEqual => value.order field == some .lt || value.order field == some .eq
  | .isMatch => value.isMatch field
  | .contains => value.contains field
  | .hasKey => value.hasKey field
  | .hasValue => value.hasValue field

end Comparison

/-- How a comparison is written. -/
inductive Operator where
  | lt
  | le
  | eq
  | ne
  | ge
  | gt
  | tilde
  | equalTilde
  | notTilde
  | isIn
  | keyIn
  | valueIn
  deriving Repr, DecidableEq

namespace Operator

/-- The text of an operator. -/
def symbol : Operator → String
  | .lt => "<"
  | .le => "<="
  | .eq => "=="
  | .ne => "!="
  | .ge => ">="
  | .gt => ">"
  | .tilde => "~"
  | .equalTilde => "=~"
  | .notTilde => "!~"
  | .isIn => "in"
  | .keyIn => "keyin"
  | .valueIn => "valuein"

/-- The comparison that an operator asks for. The value is asked, so the sides change places. -/
def comparison : Operator → Comparison
  | .lt => .greaterThan
  | .le => .greaterOrEqual
  | .eq => .equals
  | .ne => .notEquals
  | .ge => .lessOrEqual
  | .gt => .lessThan
  | .tilde | .equalTilde | .notTilde => .isMatch
  | .isIn => .contains
  | .keyIn => .hasKey
  | .valueIn => .hasValue

/-- Whether an operator turns the answer round. -/
def negates : Operator → Bool
  | .notTilde => true
  | _ => false

/-- The operators that are made of signs, those of two signs first. -/
def signs : List Operator := [.le, .ge, .eq, .ne, .equalTilde, .notTilde, .lt, .gt, .tilde]

/-- The operators that are words. -/
def words : List Operator := [.isIn, .keyIn, .valueIn]

/-- The operator of signs at the front of a text, and the text behind it. -/
def sign? (text : List Char) : Option (Operator × List Char) :=
  signs.findSome? fun op =>
    if op.symbol.toList.isPrefixOf text then some (op, text.drop op.symbol.length) else none

/-- The operator that a word is. -/
def word? (word : List Char) : Option Operator := words.find? fun op => op.symbol.toList = word

end Operator

end CourseFeed
