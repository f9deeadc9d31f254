import CourseFeed.Row.Operation

/-!
# Settings of an export

**`Settings`** say which catalog is exported, where to, which filters have to accept its elements
and which operation marks the rows. Settings are made up of layers: **`Settings.merge`** lays one
over another, a path or an operation of the upper layer replacing that of the lower one and its
filters being added.
-/

namespace CourseFeed

/-- Settings of an export. -/
structure Settings where
  catalog : Option String := none
  output : Option String := none
  /-- Where the journal is kept. -/
  logFile : Option String := none
  filters : List String := []
  operation : Option Operation := none
  deriving Repr, DecidableEq

namespace Settings

/-- The settings with a layer laid over them. -/
def merge (lower upper : Settings) : Settings where
  catalog := upper.catalog.or lower.catalog
  output := upper.output.or lower.output
  logFile := upper.logFile.or lower.logFile
  filters := lower.filters ++ upper.filters
  operation := upper.operation.or lower.operation

/-- The operation that marks the rows, an update if none is set. -/
def markOperation (s : Settings) : Operation := s.operation.getD .update

/-- The path of the catalog, which has to be set. -/
def catalogPath (s : Settings) : Except Fault String :=
  match s.catalog with
  | some path => .ok path
  | none => .error (.settings .noCatalog)

/-- The path of the output, which has to be set. -/
def outputPath (s : Settings) : Except Fault String :=
  match s.output with
  | some path => .ok path
  | none => .error (.settings .noOutput)

end Settings

end CourseFeed
