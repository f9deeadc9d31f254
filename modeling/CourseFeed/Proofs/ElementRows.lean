import CourseFeed.Catalog.Basic
import CourseFeed.Proofs.RowShape

/-!
# Columns of the rows of elements

The row of an element is made cell by cell, and some of what goes into it is a list, of which as
many texts are taken as there are columns for them.  So no list reaches beyond its own columns, and
what was set in a column stays there.

* **`Row.get_setSlots_of_not`** — setting neighbouring cells leaves the columns around them alone.
* **`Element.full_row`** — the row of an element has a cell for each column.
* **`Element.key_row`** — the row of an element is about its course and its section.
* **`Element.oldCourseCode_row`** and **`Element.oldSectionId_row`** — and it names the course and
  section that the element comes after, if there is one.
-/

namespace CourseFeed

namespace Row

theorem Full.setSlots {r : Row} (h : r.Full) (start slots : Nat) (texts : List String) :
    (r.setSlots start slots texts).Full := by
  rw [Row.setSlots]
  generalize (texts.take slots).zipIdx start = cells
  induction cells generalizing r with
  | nil => exact h
  | cons hd tl ih => exact ih (h.set hd.2 hd.1)

/-- **Setting neighbouring cells leaves the columns around them alone**, however many texts there
    are. -/
theorem get_setSlots_of_not (r : Row) {start slots column : Nat} (texts : List String)
    (h : ¬ (start ≤ column ∧ column < start + slots)) :
    (r.setSlots start slots texts).get column = r.get column := by
  have hcolumns : ∀ cell ∈ (texts.take slots).zipIdx start, cell.2 ≠ column := by
    rintro ⟨text, other⟩ hcell rfl
    obtain ⟨hstart, hend, -⟩ := List.mem_zipIdx hcell
    have hlength : (texts.take slots).length ≤ slots := List.length_take_le slots texts
    exact h ⟨hstart, by omega⟩
  rw [setSlots]
  generalize (texts.take slots).zipIdx start = cells at hcolumns
  induction cells generalizing r with
  | nil => rfl
  | cons hd tl ih =>
      rw [List.foldl_cons, ih _ fun cell hcell => hcolumns cell (List.mem_cons_of_mem hd hcell)]
      exact r.get_set_of_ne hd.1 (hcolumns hd List.mem_cons_self)

end Row

namespace Element

/-- Naming what an element comes after leaves the other columns alone. -/
theorem get_setPrevious_of_lt (r : Row) (previous : Option PreviousCourse) {column : Nat}
    (h : column < Column.oldCourseCode) :
    (previous.elim r (setPrevious r)).get column = r.get column := by
  have hcolumns : Column.oldCourseCode < Column.oldSectionId := by decide
  cases previous with
  | none => rfl
  | some p =>
      show ((r.set Column.oldCourseCode p.code).set Column.oldSectionId p.sectionId).get column = _
      rw [Row.get_set_of_ne _ _ (by omega), Row.get_set_of_ne _ _ (by omega)]

theorem courseCode_row (e : Element) : e.row.courseCode = e.course.code := by
  have hblank : Row.blank.Full := rfl
  rw [Row.courseCode, row, get_setPrevious_of_lt _ _ (by decide)]
  -- all that is set after the code lies in other columns
  simp (disch := decide) only [Row.get_set_of_ne, Row.get_setSlots_of_not]
  exact hblank.get_set_self (by decide) e.course.code

theorem sectionId_row (e : Element) : e.row.sectionId = e.sectionId := by
  have hblank : Row.blank.Full := rfl
  rw [Row.sectionId, row, get_setPrevious_of_lt _ _ (by decide)]
  simp (disch := decide) only [Row.get_set_of_ne, Row.get_setSlots_of_not]
  exact ((hblank.set _ _).set _ _).get_set_self (by decide) e.sectionId

/-- **The row of an element is about its course and its section.** -/
theorem key_row (e : Element) : e.row.key = Key.of e.course.code e.sectionId := by
  rw [Row.key, courseCode_row, sectionId_row]

/-- The row of an element names nothing that it comes after, before that is set. -/
theorem row_eq (e : Element) :
    ∃ r : Row, r.Full ∧ r.oldCourseCode = "" ∧ r.oldSectionId = "" ∧
      e.row = e.previous.elim r (setPrevious r) := by
  have hblank : Row.blank.Full := rfl
  refine ⟨_, ?_, ?_, ?_, rfl⟩
  · repeat first
      | exact hblank
      | refine Row.Full.set ?_ _ _
      | refine Row.Full.setSlots ?_ _ _ _
  · rw [Row.oldCourseCode]
    simp (disch := decide) only [Row.get_set_of_ne, Row.get_setSlots_of_not]
    rfl
  · rw [Row.oldSectionId]
    simp (disch := decide) only [Row.get_set_of_ne, Row.get_setSlots_of_not]
    rfl

/-- The row of an element has a cell for each column. -/
theorem full_row (e : Element) : e.row.Full := by
  obtain ⟨r, hfull, -, -, hrow⟩ := e.row_eq
  rw [hrow]
  cases e.previous with
  | none => exact hfull
  | some p => exact (hfull.set _ _).set _ _

/-- **The row of an element names the course that it comes after**, if there is one. -/
theorem oldCourseCode_row (e : Element) :
    e.row.oldCourseCode = e.previous.elim "" PreviousCourse.code := by
  obtain ⟨r, hfull, hcode, -, hrow⟩ := e.row_eq
  rw [hrow]
  cases e.previous with
  | none => exact hcode
  | some p =>
      show ((r.set Column.oldCourseCode p.code).set Column.oldSectionId p.sectionId).get
        Column.oldCourseCode = p.code
      rw [Row.get_set_of_ne _ _ (by decide)]
      exact hfull.get_set_self (by decide) p.code

/-- The row of an element names the section that it comes after, if there is one. -/
theorem oldSectionId_row (e : Element) :
    e.row.oldSectionId = e.previous.elim "" PreviousCourse.sectionId := by
  obtain ⟨r, hfull, -, hsection, hrow⟩ := e.row_eq
  rw [hrow]
  cases e.previous with
  | none => exact hsection
  | some p => exact (hfull.set _ _).get_set_self (by decide) p.sectionId

end Element

end CourseFeed
