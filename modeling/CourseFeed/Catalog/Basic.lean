import CourseFeed.Calendar.Date
import CourseFeed.Decimal.Layout
import CourseFeed.Row.Basic

/-!
# Catalogs

A **`Catalog`** lists courses. A course belongs to a year and may be divided into cohorts, which
may have a title, a size, instructors and a previous course of their own.

An **`Element`** is what a row of a feed is about: a whole course, or one cohort of it. Where a
cohort has something of its own, that holds for the element, and else what the course has.
**`Element.row`** is the row of an element.
-/

namespace CourseFeed

open CourseFeed.Decimal

/-- The course and section that a course comes after. -/
structure PreviousCourse where
  code : String
  sectionId : String
  deriving Repr, DecidableEq

/-- A part of a course that has a section of its own. -/
structure Cohort where
  code : String := ""
  title : Option String := none
  participants : Option Nat := none
  instructors : Option (List String) := none
  previous : Option PreviousCourse := none
  deriving Repr, DecidableEq

/-- A course of a year. -/
structure Course where
  code : String := ""
  title : String := ""
  sectionId : String := ""
  year : Int := 0
  academicDepartment : String := ""
  processingDepartment : String := ""
  terms : List String := []
  startDate : Option Date := none
  endDate : Option Date := none
  participants : Option Nat := none
  weeklyHours : Option Binary64 := none
  searchIds : List String := []
  instructors : List String := []
  previous : Option PreviousCourse := none
  cohorts : List Cohort := []
  deriving Repr, DecidableEq

/-- A list of courses. -/
structure Catalog where
  courses : List Course
  deriving Repr, DecidableEq

/-- A course, or one cohort of it, in a year. -/
structure Element where
  year : Int
  course : Course
  cohort : Option Cohort
  deriving Repr, DecidableEq

/-- What is put between the instructors of a row. -/
def instructorSeparator : String := ";"

/-- Weekly hours have all their places written out, and no point after a whole number. -/
def hoursLayout : Layout := ⟨.upper, fun _ => true, []⟩

/-- The section of a cohort within a section; an empty section adds nothing to it. -/
def cohortSection (sectionId : String) (k : Cohort) : String :=
  if sectionId.isEmpty then k.code else sectionId ++ "-" ++ k.code

/-- The course that a cohort comes after if it says nothing of it: the cohort of the same code in
    the course that its course comes after. -/
def PreviousCourse.forCohort (p : PreviousCourse) (k : Cohort) : PreviousCourse :=
  { p with sectionId := cohortSection p.sectionId k }

namespace Element

/-- The title of an element. -/
def title (e : Element) : String :=
  match e.cohort with
  | none => e.course.title
  | some k => e.course.title ++ " (" ++ k.title.getD k.code ++ ")"

/-- The section of an element. -/
def sectionId (e : Element) : String :=
  match e.cohort with
  | none => e.course.sectionId
  | some k => cohortSection e.course.sectionId k

/-- The instructors of an element. -/
def instructors (e : Element) : List String :=
  (e.cohort.bind Cohort.instructors).getD e.course.instructors

/-- The number of participants of an element. -/
def participants (e : Element) : Option Nat :=
  (e.cohort.bind Cohort.participants).or e.course.participants

/-- The course that an element comes after. -/
def previous (e : Element) : Option PreviousCourse :=
  match e.cohort with
  | none => e.course.previous
  | some k => k.previous.or (e.course.previous.map fun p => p.forCohort k)

/-- The row with a previous course. -/
def setPrevious (r : Row) (p : PreviousCourse) : Row :=
  (r.set Column.oldCourseCode p.code).set Column.oldSectionId p.sectionId

/-- The row of an element. -/
def row (e : Element) : Row :=
  let c := e.course
  let r := Row.blank
  let r := r.set Column.courseCode c.code
  let r := r.set Column.courseTitle e.title
  let r := r.set Column.sectionId e.sectionId
  let r := r.set Column.academicDepartment c.academicDepartment
  let r := r.set Column.processingDepartment c.processingDepartment
  let r := r.setSlots Column.firstTerm Column.termSlots c.terms
  let r := r.set Column.startDate (c.startDate.elim "" Date.text)
  let r := r.set Column.endDate (c.endDate.elim "" Date.text)
  let r := r.set Column.participants (e.participants.elim "" fun n => String.ofList (natText n))
  let r := r.set Column.weeklyHours
    (c.weeklyHours.elim "" fun h => String.ofList (hoursLayout.text h))
  let r := r.set Column.year (String.ofList (intText e.year))
  let r := r.setSlots Column.firstSearchId Column.searchIdSlots c.searchIds
  let r := r.setSlots Column.firstInstructor Column.instructorSlots e.instructors
  let r := r.set Column.allInstructors (String.intercalate instructorSeparator e.instructors)
  e.previous.elim r (setPrevious r)

end Element

namespace Catalog

/-- Puts a year among years in ascending order, unless it is there. -/
def insertYear (year : Int) : List Int → List Int
  | [] => [year]
  | y :: rest =>
    if year < y then year :: y :: rest
    else if year = y then y :: rest
    else y :: insertYear year rest

/-- The years of a catalog in ascending order. -/
def years (c : Catalog) : List Int :=
  c.courses.foldl (fun years course => insertYear course.year years) []

/-- The courses of a year in the order of the catalog. -/
def coursesOf (c : Catalog) (year : Int) : List Course :=
  c.courses.filter fun course => course.year == year

end Catalog

/-- The elements of a course in a year: the course itself, or its cohorts if it has any. -/
def Course.elements (year : Int) (c : Course) : List Element :=
  if c.cohorts.isEmpty then [⟨year, c, none⟩] else c.cohorts.map fun k => ⟨year, c, some k⟩

end CourseFeed
