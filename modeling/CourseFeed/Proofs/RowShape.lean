import CourseFeed.Feed.Writer
import CourseFeed.Reconcile.Change

/-!
# The shape of rows

A row that stands in a feed has a cell for each of the 31 columns.  Everything that is done to such
a row on its way to a sink keeps that shape and leaves the columns before the operation alone:

* **`Full`** — the row has a cell for each column; marking and formatting keep it.
* **`get_mark_of_lt`** and **`key_mark`** — marking a row with an operation rewrites the last three
  columns only, so a marked row is still about the same course and section.  What the three have
  then is **`operationCode_mark`**, **`oldCourseCode_mark`** and **`oldSectionId_mark`**.
* **`rowBytes_of_full`** — the bytes of a full row are its line and a line feed; the two quotes that
  stand for a line without any text are never needed.
-/

namespace CourseFeed

open CourseFeed.Feed CourseFeed.Text

namespace Row

/-- A row with a cell for each column. -/
def Full (r : Row) : Prop := r.cells.length = columnCount

instance (r : Row) : Decidable r.Full := inferInstanceAs (Decidable (_ = _))

/-- The row of a course and a section, with nothing else in it. -/
def about (code sectionId : String) : Row :=
  (blank.set Column.courseCode code).set Column.sectionId sectionId

theorem Full.set {r : Row} (h : r.Full) (column : Nat) (text : String) :
    (r.set column text).Full := by
  show (r.cells.set column text).length = columnCount
  rw [List.length_set]
  exact h

theorem Full.clearPrevious {r : Row} (h : r.Full) : r.clearPrevious.Full :=
  (h.set Column.oldCourseCode "").set Column.oldSectionId ""

/-- Marking a row keeps its width. -/
theorem Full.mark {r : Row} (h : r.Full) (op : Operation) : (r.mark op).Full := by
  have hset : (r.set Column.operation op.code).Full := h.set _ _
  by_cases hop : op = .rollover
  · rw [Row.mark, if_pos hop]
    exact hset
  · rw [Row.mark, if_neg hop]
    exact hset.clearPrevious

/-- Setting a cell leaves the others as they are. -/
theorem get_set_of_ne (r : Row) {column other : Nat} (text : String) (h : column ≠ other) :
    (r.set column text).get other = r.get other := by
  show (r.cells.set column text).getD other "" = r.cells.getD other ""
  rw [List.getD_eq_getElem?_getD, List.getD_eq_getElem?_getD, List.getElem?_set_ne h]

/-- In a full row a cell that was set has the text it was set to. -/
theorem Full.get_set_self {r : Row} (h : r.Full) {column : Nat} (hcolumn : column < columnCount)
    (text : String) : (r.set column text).get column = text := by
  have hwidth : column < r.cells.length := by
    rw [show r.cells.length = columnCount from h]
    exact hcolumn
  show (r.cells.set column text).getD column "" = text
  rw [List.getD_eq_getElem?_getD, List.getElem?_set_self hwidth]
  rfl

/-- Marking rewrites the operation and the columns behind it only. -/
theorem get_mark_of_lt (r : Row) (op : Operation) {column : Nat}
    (h : column < Column.operation) : (r.mark op).get column = r.get column := by
  -- the columns that are cleared lie behind that of the operation
  have hcolumns : Column.operation < Column.oldCourseCode ∧
      Column.oldCourseCode < Column.oldSectionId := by decide
  have hset : (r.set Column.operation op.code).get column = r.get column :=
    get_set_of_ne r _ (by omega)
  by_cases hop : op = .rollover
  · rw [Row.mark, if_pos hop]
    exact hset
  · rw [Row.mark, if_neg hop]
    show (((r.set Column.operation op.code).set Column.oldCourseCode "").set
      Column.oldSectionId "").get column = r.get column
    rw [get_set_of_ne _ _ (by omega), get_set_of_ne _ _ (by omega)]
    exact hset

/-- A marked row is about the same course and section. -/
@[simp] theorem key_mark (r : Row) (op : Operation) : (r.mark op).key = r.key := by
  show Key.of ((r.mark op).get Column.courseCode) ((r.mark op).get Column.sectionId) = r.key
  rw [get_mark_of_lt r op (by decide), get_mark_of_lt r op (by decide)]
  rfl

/-- A marked row has the code of its operation. -/
theorem operationCode_mark {r : Row} (h : r.Full) (op : Operation) :
    (r.mark op).operationCode = op.code := by
  have hset : (r.set Column.operation op.code).get Column.operation = op.code :=
    h.get_set_self (by decide) op.code
  show (r.mark op).get Column.operation = op.code
  by_cases hop : op = .rollover
  · rw [Row.mark, if_pos hop]
    exact hset
  · rw [Row.mark, if_neg hop]
    show (((r.set Column.operation op.code).set Column.oldCourseCode "").set
      Column.oldSectionId "").get Column.operation = op.code
    rw [get_set_of_ne _ _ (by decide), get_set_of_ne _ _ (by decide)]
    exact hset

/-- Only a rollover keeps the course that a row comes after. -/
theorem oldCourseCode_mark {r : Row} (h : r.Full) (op : Operation) :
    (r.mark op).oldCourseCode = if op = .rollover then r.oldCourseCode else "" := by
  by_cases hop : op = .rollover
  · rw [Row.mark, if_pos hop, if_pos hop]
    exact r.get_set_of_ne _ (by decide)
  · rw [Row.mark, if_neg hop, if_neg hop]
    show (((r.set Column.operation op.code).set Column.oldCourseCode "").set
      Column.oldSectionId "").get Column.oldCourseCode = ""
    rw [get_set_of_ne _ _ (by decide)]
    exact (h.set _ _).get_set_self (by decide) ""

/-- Only a rollover keeps the section that a row comes after. -/
theorem oldSectionId_mark {r : Row} (h : r.Full) (op : Operation) :
    (r.mark op).oldSectionId = if op = .rollover then r.oldSectionId else "" := by
  by_cases hop : op = .rollover
  · rw [Row.mark, if_pos hop, if_pos hop]
    exact r.get_set_of_ne _ (by decide)
  · rw [Row.mark, if_neg hop, if_neg hop]
    exact ((h.set _ _).set _ _).get_set_self (by decide) ""

/-- A full row has two cells and more. -/
theorem Full.cells_eq {r : Row} (h : r.Full) :
    ∃ first second rest, r.cells = first :: second :: rest := by
  obtain ⟨cells⟩ := r
  match cells, h with
  | first :: second :: rest, _ => exact ⟨first, second, rest, rfl⟩

/-- Thirty tabs at least stand in the line of a full row. -/
theorem Full.encode_ne_empty {r : Row} (h : r.Full) : r.encode ≠ "" := by
  obtain ⟨first, second, rest, hcells⟩ := h.cells_eq
  intro hempty
  have hchars : r.encode.toList = [] := by
    rw [hempty]
    rfl
  rw [encode, hcells, String.intercalate_cons_cons] at hchars
  simp at hchars

end Row

/-- The bytes of a full row are those of its line and a line feed. -/
theorem rowBytes_of_full {r : Row} (h : r.Full) :
    rowBytes r = encodeUtf8 (r.encode ++ "\n") := by
  have hne : r.encode.isEmpty = false := by
    cases hempty : r.encode.isEmpty with
    | false => rfl
    | true => exact absurd (String.isEmpty_iff.mp hempty) h.encode_ne_empty
  show encodeUtf8 ((if r.encode.isEmpty then "\"\"" else r.encode) ++ "\n") = _
  rw [hne]
  rfl

namespace Change

/-- The row that a change is told by, before it is formatted: the new one, or the old one where
    there is no new one. -/
def told : Change → Row
  | .create new => new
  | .delete old => old
  | .update _ new => new

/-- A change is formatted by marking the row it is told by. -/
theorem format_eq_mark (options : DiffOptions) (c : Change) :
    ∃ op, c.format options = c.told.mark op := by
  cases c with
  | create new => exact ⟨if options.rollover && new.hasPrevious then .rollover else .update, rfl⟩
  | delete old => exact ⟨.delete, rfl⟩
  | update old new => exact ⟨.update, rfl⟩

/-- The formatted row agrees with the row told in all columns before the operation. -/
theorem get_format_of_lt (options : DiffOptions) (c : Change) {column : Nat}
    (h : column < Column.operation) : (c.format options).get column = c.told.get column := by
  obtain ⟨op, hop⟩ := c.format_eq_mark options
  rw [hop]
  exact c.told.get_mark_of_lt op h

/-- Formatting keeps the key of the row told. -/
theorem key_format (options : DiffOptions) (c : Change) : (c.format options).key = c.key := by
  obtain ⟨op, hop⟩ := c.format_eq_mark options
  rw [hop, Row.key_mark]
  cases c <;> rfl

theorem full_format (options : DiffOptions) {c : Change} (h : c.told.Full) :
    (c.format options).Full := by
  obtain ⟨op, hop⟩ := c.format_eq_mark options
  rw [hop]
  exact h.mark op

end Change

end CourseFeed
