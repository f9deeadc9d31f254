import CourseFeed.Catalog.Json
import CourseFeed.Catalog.Selection
import CourseFeed.Feed.Writer
import CourseFeed.Journal

/-!
# Exporting catalogs

**`Catalog.load`** reads a stored catalog. **`Catalog.exportTo`** writes the rows of the elements
that some filters accept to a feed, each marked with the same operation, and notes down how far
reading has come and how many rows were written.
-/

namespace CourseFeed

open CourseFeed.Feed CourseFeed.Decimal

namespace Catalog

/-- The stored catalog of a path. -/
def load (s : Storage) (path : String) : Except Fault Catalog :=
  match s.readText path with
  | .error fault => .error (.unreadable path fault)
  | .ok text => (ofJson text).mapError .json

/-- The part of the program that notes down exports. -/
def exportPart : String := "cl_core::reader"

/-- What is noted down when a year is read. -/
def yearRead (year : Int) (selected : Nat) : JournalEntry :=
  .plain .debug exportPart
    ("Read courses for " ++ String.ofList (intText year) ++ ": " ++
      String.ofList (natText selected) ++ " selected so far")

/-- What is noted down while some years are read, `selected` elements being selected before. -/
def readingEntries (c : Catalog) (filters : List (Filter Element)) (selected : Nat) :
    List Int → List JournalEntry
  | [] => []
  | year :: rest =>
    let selected := selected + (c.elementsOf filters year).length
    yearRead year selected :: readingEntries c filters selected rest

/-- What is noted down at the end of an export. -/
def exported (rows : Nat) (op : Operation) (path : String) : JournalEntry :=
  .plain .info exportPart
    ("Exported " ++ String.ofList (natText rows) ++ " rows (" ++ op.name ++ ") to " ++ path)

/-- The rows of the elements that some filters accept. -/
def rows (c : Catalog) (filters : List (Filter Element)) : List Row :=
  (c.elements filters).map Element.row

/-- Writes the rows of the elements that some filters accept, and gives their number. -/
def exportTo (deliver : Deliver ω) (note : ω → JournalEntry → ω) (world : ω) (w : Writer)
    (c : Catalog) (filters : List (Filter Element)) (op : Operation) :
    ω × Writer × Except Fault Nat :=
  let world := (c.readingEntries filters 0 c.years).foldl note world
  let rows := c.rows filters
  match w.writeAll deliver op world rows with
  | (world, w, some fault) => (world, w, .error fault)
  | (world, w, none) =>
    (note world (exported rows.length op w.buffer.path), w, .ok rows.length)

end Catalog

end CourseFeed
