import CourseFeed.Json.Printer
import CourseFeed.Json.Shape
import CourseFeed.Reconcile.Files

/-!
# Options, sinks and summaries as JSON

What goes into a pass and comes out of it, as JSON: kinds of change by their names, and options,
sinks and summaries as objects. A sink that is left out of an object is no sink.
-/

namespace CourseFeed

open CourseFeed.Json

namespace ChangeKind

/-- The kind of change that a JSON text holds. -/
def ofJson (text : String) : Except Json.Error ChangeKind :=
  readAll (readVariant (all.map fun kind => (kind.name, kind))) text

/-- The tree of a kind of change. -/
def toTree (kind : ChangeKind) : Tree := .text kind.name

end ChangeKind

namespace DiffOptions

/-- The shape of options. -/
def shape : Shape (Option Bool) DiffOptions where
  name := "DiffOptions"
  fields := [Field.of "rollover" readBool id fun _ value => some value]
  start := none
  lenient := false
  make := fun rollover => do return ⟨← needed "rollover" rollover⟩

/-- The options that a JSON text holds. -/
def ofJson (text : String) : Except Json.Error DiffOptions := readAll shape.read text

/-- The tree of options. -/
def toTree (o : DiffOptions) : Tree := .object [("rollover", .bool o.rollover)]

end DiffOptions

namespace DiffSinks

/-- The sinks that were given so far. -/
structure Draft where
  create : Option (Option String) := none
  delete : Option (Option String) := none
  update : Option (Option String) := none

/-- The shape of sinks. -/
def shape : Shape Draft DiffSinks where
  name := "DiffSinks"
  fields :=
    [ Field.of "create" (readOptional readPath) Draft.create fun s v => { s with create := some v },
      Field.of "delete" (readOptional readPath) Draft.delete fun s v => { s with delete := some v },
      Field.of "update" (readOptional readPath) Draft.update fun s v => { s with update := some v } ]
  start := {}
  lenient := false
  make := fun s => .ok ⟨s.create.getD none, s.delete.getD none, s.update.getD none⟩

/-- The sinks that a JSON text holds. -/
def ofJson (text : String) : Except Json.Error DiffSinks := readAll shape.read text

/-- The tree of sinks. -/
def toTree (s : DiffSinks) : Tree :=
  .object
    [("create", .optional .text s.create), ("delete", .optional .text s.delete),
      ("update", .optional .text s.update)]

end DiffSinks

namespace DiffSummary

/-- The counts that were given so far. -/
structure Draft where
  created : Option Nat := none
  rolledOver : Option Nat := none
  updated : Option Nat := none
  deleted : Option Nat := none
  skipped : Option Nat := none
  aborted : Option Bool := none

/-- The shape of a summary. -/
def shape : Shape Draft DiffSummary where
  name := "DiffSummary"
  fields :=
    [ Field.of "created" readSize Draft.created fun s v => { s with created := some v },
      Field.of "rolled_over" readSize Draft.rolledOver fun s v => { s with rolledOver := some v },
      Field.of "updated" readSize Draft.updated fun s v => { s with updated := some v },
      Field.of "deleted" readSize Draft.deleted fun s v => { s with deleted := some v },
      Field.of "skipped" readSize Draft.skipped fun s v => { s with skipped := some v },
      Field.of "aborted" readBool Draft.aborted fun s v => { s with aborted := some v } ]
  start := {}
  lenient := false
  make := fun s => do
    return {
      created := ← needed "created" s.created
      rolledOver := ← needed "rolled_over" s.rolledOver
      updated := ← needed "updated" s.updated
      deleted := ← needed "deleted" s.deleted
      skipped := ← needed "skipped" s.skipped
      aborted := ← needed "aborted" s.aborted }

/-- The summary that a JSON text holds. -/
def ofJson (text : String) : Except Json.Error DiffSummary := readAll shape.read text

/-- The tree of a summary. -/
def toTree (s : DiffSummary) : Tree :=
  .object
    [("created", .nat s.created), ("rolled_over", .nat s.rolledOver), ("updated", .nat s.updated),
      ("deleted", .nat s.deleted), ("skipped", .nat s.skipped), ("aborted", .bool s.aborted)]

end DiffSummary

end CourseFeed
