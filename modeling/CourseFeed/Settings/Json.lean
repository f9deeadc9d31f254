import CourseFeed.Row.Json
import CourseFeed.Session
import CourseFeed.Settings.Basic

/-!
# Settings as JSON

Settings are an object any of whose members may be left out. **`Settings.save`** writes it to a
file, with all members but an operation that is not set, and **`Settings.load`** reads it.
-/

namespace CourseFeed

open CourseFeed.Json CourseFeed.Text

namespace Settings

/-- The shape of settings. -/
def shape : Shape (Filled Settings) Settings :=
  .filling "ExportConfig" {}
    [ .into "catalog" (readOptional readPath) fun s v => { s with catalog := v },
      .into "output" (readOptional readPath) fun s v => { s with output := v },
      .into "log_file" (readOptional readPath) fun s v => { s with logFile := v },
      .into "filters" (readList readString) fun s v => { s with filters := v },
      .into "operation" (readOptional Operation.read) fun s v => { s with operation := v } ]

/-- The settings that a JSON text holds. -/
def ofJson (text : String) : Except Json.Error Settings := readAll shape.read text

/-- The tree of settings. -/
def toTree (s : Settings) : Tree :=
  .object
    ([ ("catalog", .optional .text s.catalog),
       ("output", .optional .text s.output),
       ("log_file", .optional .text s.logFile),
       ("filters", .texts s.filters) ] ++
      s.operation.toList.map fun op => ("operation", op.toTree))

/-- The stored settings of a path. -/
def load (storage : Storage) (path : String) : Except Fault Settings :=
  match storage.readText path with
  | .error fault => .error (.unreadable path fault)
  | .ok text => (ofJson text).mapError .json

/-- Stores settings under a path. -/
def save (s : Settings) (storage : Storage) (path : String) : Except Fault Storage :=
  match storage.create path with
  | .error fault => .error (.unwritable path fault)
  | .ok (storage, location) => .ok (storage.writeAt location 0 (encodeUtf8 s.toTree.pretty))

end Settings

end CourseFeed
