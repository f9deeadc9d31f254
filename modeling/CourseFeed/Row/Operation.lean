import CourseFeed.Row.Basic
import CourseFeed.Text.Lowercase

/-!
# Operations

An **`Operation`** says what is to be done with the course of a row. It stands in a column of its
own, and only a rollover keeps the course that the row comes after.
-/

namespace CourseFeed

/-- What is to be done with the course of a row. -/
inductive Operation where
  | update
  | delete
  | rollover
  deriving Repr, DecidableEq

namespace Operation

/-- All operations. -/
def all : List Operation := [.update, .delete, .rollover]

/-- The name of an operation. -/
def name : Operation → String
  | .update => "update"
  | .delete => "delete"
  | .rollover => "rollover"

/-- What stands in the column of operations. -/
def code : Operation → String
  | .update => ""
  | .delete => "DELETE"
  | .rollover => "ROLLOVER"

/-- The operation with a name, in capitals or not. -/
def parse (text : String) : Except Fault Operation :=
  let wanted := Text.lowercase text
  match all.find? fun op => op.name == wanted with
  | some op => .ok op
  | none => .error (.settings (.unknownOperation wanted))

end Operation

/-- The row marked with an operation. -/
def Row.mark (r : Row) (op : Operation) : Row :=
  let marked := r.set Column.operation op.code
  if op = .rollover then marked else marked.clearPrevious

end CourseFeed
