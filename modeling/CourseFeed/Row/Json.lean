import CourseFeed.Json.Printer
import CourseFeed.Json.Shape
import CourseFeed.Row.Operation

/-!
# Rows, keys and operations as JSON

A row is an object with its cells, of any number; a key is its text; an operation is its name.
-/

namespace CourseFeed

open CourseFeed.Json

namespace Row

/-- The shape of a row. -/
def shape : Shape (Option (List String)) Row where
  name := "CourseRow"
  fields := [Field.of "cells" (readList readString) id fun _ cells => some cells]
  start := none
  lenient := false
  make := fun cells => do return ⟨← needed "cells" cells⟩

/-- The row that a JSON text holds. -/
def ofJson (text : String) : Except Json.Error Row := readAll shape.read text

/-- The tree of a row. -/
def toTree (r : Row) : Tree := .object [("cells", .texts r.cells)]

end Row

namespace Key

/-- The key that a JSON text holds. -/
def ofJson (text : String) : Except Json.Error Key :=
  (readAll readString text).map Key.mk

/-- The tree of a key. -/
def toTree (k : Key) : Tree := .text k.text

end Key

namespace Operation

/-- Reads an operation. -/
def read : Reader Operation := readVariant (all.map fun op => (op.name, op))

/-- The operation that a JSON text holds. -/
def ofJson (text : String) : Except Json.Error Operation := readAll read text

/-- The tree of an operation. -/
def toTree (op : Operation) : Tree := .text op.name

end Operation

end CourseFeed
