import CourseFeed.Feed.Records
import CourseFeed.Row.Basic
import CourseFeed.Text.Bytes

/-!
# Reading feeds

The rows of a feed are its records, the first of them left out when it is the row of column names.
**`Feed.rowsOfText`** reads a text and **`Feed.rowsOfBytes`** the bytes of a file;
**`Feed.readRows`** reads a stored file.
-/

namespace CourseFeed.Feed

open CourseFeed.Text

/-- The rows of some records. -/
def rowsOfRecords : List (Record Char) → Except Fault (List Row)
  | [] => .ok []
  | record :: rest => do
    let row ← Row.ofCells (record.fields.map String.ofList) record.line
    return row :: (← rowsOfRecords rest)

/-- Some rows without the column names before them. -/
def dropHeader : List Row → List Row
  | [] => []
  | row :: rest => if row.isHeader then rest else row :: rest

/-- The rows of a text. -/
def rowsOfText (text : String) : Except Fault (List Row) :=
  (rowsOfRecords (recordsOfText text.toList)).map dropHeader

/-- The first field that is no text, with the number of its bytes that are. -/
def firstBadField (index : Nat) : List (List UInt8) → Option (Nat × Nat)
  | [] => none
  | field :: rest =>
    let valid := validLength field
    if valid < field.length then some (index, valid) else firstBadField (index + 1) rest

/-- The fault of the first record that has one, among records of bytes. -/
def firstFault (path : String) (index : Nat) : List (Record UInt8) → Option Fault
  | [] => none
  | record :: rest =>
    match firstBadField 0 record.fields with
    | some (field, valid) =>
      some (.feed path (.notText index record.line field record.offset valid))
    | none =>
      if columnCount < record.fields.length then
        some (.tooWide record.line record.fields.length)
      else firstFault path (index + 1) rest

/-- The rows of the bytes of a file; `path` is the name of the file. -/
def rowsOfBytes (path : String) (bytes : List UInt8) : Except Fault (List Row) :=
  match decodeUtf8? bytes with
  | some text => rowsOfText text
  | none =>
    match firstFault path 0 (recordsOfBytes bytes) with
    | some fault => .error fault
    | none => .ok []

/-- The rows of a stored file. -/
def readRows (s : Storage) (path : String) : Except Fault (List Row) :=
  match s.openEntry path with
  | .error fault => .error (.unreadable path fault)
  | .ok .directory => .error (.feed path (.storage .isDirectory))
  | .ok (.file content) => rowsOfBytes path content

end CourseFeed.Feed
