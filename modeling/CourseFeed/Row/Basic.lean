import CourseFeed.Fault

/-!
# Rows

A **`Row`** is a line of a course feed: one cell for each of 31 columns. Rows that are read from
feeds or made here have all their cells; a row that is read from elsewhere may have fewer or more,
so a cell that is not there counts as empty and setting it does nothing.

A **`Key`** tells which course and section a row is about.
-/

namespace CourseFeed

/-! ## Columns -/

namespace Column

def courseCode : Nat := 0
def courseTitle : Nat := 1
def sectionId : Nat := 2
def academicDepartment : Nat := 3
def processingDepartment : Nat := 4
def firstTerm : Nat := 5
def startDate : Nat := 9
def endDate : Nat := 10
def participants : Nat := 11
def weeklyHours : Nat := 12
def year : Nat := 13
def firstSearchId : Nat := 14
def firstInstructor : Nat := 17
def allInstructors : Nat := 27
def operation : Nat := 28
def oldCourseCode : Nat := 29
def oldSectionId : Nat := 30

/-- The number of columns for terms. -/
def termSlots : Nat := 4

/-- The number of columns for search identifiers. -/
def searchIdSlots : Nat := 3

/-- The number of columns for single instructors. -/
def instructorSlots : Nat := 10

/-- The names of the columns. -/
def names : List String :=
  ["COURSE_CODE", "COURSE_TITLE", "SECTION_ID", "ACAD_DEPT", "PROC_DEPT", "TERM1", "TERM2",
    "TERM3", "TERM4", "START_DATE", "END_DATE", "NUM_OF_PARTICIPANTS", "WEEKLY_HOURS", "YEAR",
    "SEARCH_ID1", "SEARCH_ID2", "SEARCH_ID3", "INSTR1", "INSTR2", "INSTR3", "INSTR4", "INSTR5",
    "INSTR6", "INSTR7", "INSTR8", "INSTR9", "INSTR10", "ALL_INSTRUCTORS", "OPERATION",
    "OLD_COURSE_CODE", "OLD_COURSE_SECTION_ID"]

end Column

/-! ## Keys -/

/-- Tells which course and section a row is about. -/
structure Key where
  text : String
  deriving Repr, DecidableEq

/-- The key of a course code and a section: both with a colon between them. -/
def Key.of (code sectionId : String) : Key := ⟨code ++ ":" ++ sectionId⟩

/-! ## Rows -/

/-- A line of a course feed. -/
structure Row where
  cells : List String
  deriving Repr, DecidableEq

namespace Row

/-- The row whose cells are all empty. -/
def blank : Row := ⟨List.replicate columnCount ""⟩

/-- The row of column names. -/
def header : Row := ⟨Column.names⟩

/-- The row with the given cells and empty ones behind them. A fault names the line. -/
def ofCells (cells : List String) (line : Nat) : Except Fault Row :=
  if columnCount < cells.length then .error (.tooWide line cells.length)
  else .ok ⟨cells ++ List.replicate (columnCount - cells.length) ""⟩

/-- A cell of a row. -/
def get (r : Row) (column : Nat) : String := r.cells.getD column ""

/-- The row with another text in a cell. -/
def set (r : Row) (column : Nat) (text : String) : Row := ⟨r.cells.set column text⟩

/-- The row with texts in neighbouring cells, at most `slots` of them. -/
def setSlots (r : Row) (start slots : Nat) (texts : List String) : Row :=
  ((texts.take slots).zipIdx start).foldl (fun r (text, column) => r.set column text) r

def courseCode (r : Row) : String := r.get Column.courseCode
def sectionId (r : Row) : String := r.get Column.sectionId
def operationCode (r : Row) : String := r.get Column.operation
def oldCourseCode (r : Row) : String := r.get Column.oldCourseCode
def oldSectionId (r : Row) : String := r.get Column.oldSectionId

/-- Whether a row names the course and the section that it comes after. -/
def hasPrevious (r : Row) : Bool := !r.oldCourseCode.isEmpty && !r.oldSectionId.isEmpty

/-- The row without the course that it comes after. -/
def clearPrevious (r : Row) : Row := (r.set Column.oldCourseCode "").set Column.oldSectionId ""

/-- The key of a row. -/
def key (r : Row) : Key := Key.of r.courseCode r.sectionId

/-- Whether a row is that of the column names. -/
def isHeader (r : Row) : Bool := r == header

/-! ## Lines -/

/-- A line without the line end behind it. -/
def chopLine (line : List Char) : List Char :=
  let line := if line.getLast? = some '\n' then line.dropLast else line
  if line.getLast? = some '\r' then line.dropLast else line

/-- The row of a line whose cells are set apart by tabs. -/
def decode (line : String) : Except Fault Row :=
  ofCells (((chopLine line.toList).splitOn '\t').map String.ofList) 1

/-- The line of a row, without a line end. -/
def encode (r : Row) : String := String.intercalate "\t" r.cells

end Row

end CourseFeed
