import CourseFeed.Catalog.Basic
import CourseFeed.Json.Printer
import CourseFeed.Json.Shape

/-!
# Catalogs as JSON

A catalog is an object with a list of courses. All fields of courses and cohorts may be left out;
a previous course has to be complete. Everything is written out, null for what is absent.
-/

namespace CourseFeed

open CourseFeed.Json CourseFeed.Decimal

/-! ## Previous courses -/

namespace PreviousCourse

/-- The fields that were given so far. -/
structure Draft where
  code : Option String := none
  sectionId : Option String := none

/-- The shape of a previous course. -/
def shape : Shape Draft PreviousCourse where
  name := "PreviousCourse"
  fields :=
    [ Field.of "code" readString Draft.code fun s v => { s with code := some v },
      Field.of "section" readString Draft.sectionId fun s v => { s with sectionId := some v } ]
  start := {}
  lenient := false
  make := fun s => do return ⟨← needed "code" s.code, ← needed "section" s.sectionId⟩

/-- The previous course that a JSON text holds. -/
def ofJson (text : String) : Except Json.Error PreviousCourse := readAll shape.read text

/-- The tree of a previous course. -/
def toTree (p : PreviousCourse) : Tree :=
  .object [("code", .text p.code), ("section", .text p.sectionId)]

end PreviousCourse

/-! ## Cohorts -/

namespace Cohort

/-- The shape of a cohort. -/
def shape : Shape (Filled Cohort) Cohort :=
  .filling "CatalogCohort" {}
    [ .into "code" readString fun k v => { k with code := v },
      .into "title" (readOptional readString) fun k v => { k with title := v },
      .into "participants" (readOptional readNat32) fun k v => { k with participants := v },
      .into "instructors" (readOptional (readList readString)) fun k v =>
        { k with instructors := v },
      .into "previous" (readOptional PreviousCourse.shape.read) fun k v =>
        { k with previous := v } ]

/-- The cohort that a JSON text holds. -/
def ofJson (text : String) : Except Json.Error Cohort := readAll shape.read text

/-- The tree of a cohort. -/
def toTree (k : Cohort) : Tree :=
  .object
    [ ("code", .text k.code),
      ("title", .optional .text k.title),
      ("participants", .optional .nat k.participants),
      ("instructors", .optional .texts k.instructors),
      ("previous", .optional PreviousCourse.toTree k.previous) ]

end Cohort

/-! ## Courses -/

/-- Reads a date. -/
def Date.read : Reader Date :=
  readParsed "a formatted date string" fun text => (Date.parse text).mapError DateFault.message

/-- The tree of a date. -/
def Date.toTree (d : Date) : Tree := .text d.text

namespace Course

/-- The shape of a course. -/
def shape : Shape (Filled Course) Course :=
  .filling "CatalogCourse" {}
    [ .into "code" readString fun c v => { c with code := v },
      .into "title" readString fun c v => { c with title := v },
      .into "section" readString fun c v => { c with sectionId := v },
      .into "year" readInt32 fun c v => { c with year := v },
      .into "academic_department" readString fun c v => { c with academicDepartment := v },
      .into "processing_department" readString fun c v => { c with processingDepartment := v },
      .into "terms" (readList readString) fun c v => { c with terms := v },
      .into "start_date" (readOptional Date.read) fun c v => { c with startDate := v },
      .into "end_date" (readOptional Date.read) fun c v => { c with endDate := v },
      .into "participants" (readOptional readNat32) fun c v => { c with participants := v },
      .into "weekly_hours" (readOptional readBinary) fun c v => { c with weeklyHours := v },
      .into "search_ids" (readList readString) fun c v => { c with searchIds := v },
      .into "instructors" (readList readString) fun c v => { c with instructors := v },
      .into "previous" (readOptional PreviousCourse.shape.read) fun c v =>
        { c with previous := v },
      .into "cohorts" (readList Cohort.shape.read) fun c v => { c with cohorts := v } ]

/-- The course that a JSON text holds. -/
def ofJson (text : String) : Except Json.Error Course := readAll shape.read text

/-- The tree of a course. -/
def toTree (c : Course) : Tree :=
  .object
    [ ("code", .text c.code),
      ("title", .text c.title),
      ("section", .text c.sectionId),
      ("year", .int c.year),
      ("academic_department", .text c.academicDepartment),
      ("processing_department", .text c.processingDepartment),
      ("terms", .texts c.terms),
      ("start_date", .optional Date.toTree c.startDate),
      ("end_date", .optional Date.toTree c.endDate),
      ("participants", .optional .nat c.participants),
      ("weekly_hours", .optional (fun h => .number (.float h)) c.weeklyHours),
      ("search_ids", .texts c.searchIds),
      ("instructors", .texts c.instructors),
      ("previous", .optional PreviousCourse.toTree c.previous),
      ("cohorts", .list (c.cohorts.map Cohort.toTree)) ]

end Course

/-! ## Catalogs -/

namespace Catalog

/-- The shape of a catalog. -/
def shape : Shape (Option (List Course)) Catalog where
  name := "Catalog"
  fields := [Field.of "courses" (readList Course.shape.read) id fun _ courses => some courses]
  start := none
  lenient := false
  make := fun courses => do return ⟨← needed "courses" courses⟩

/-- The catalog that a JSON text holds. -/
def ofJson (text : String) : Except Json.Error Catalog := readAll shape.read text

/-- The tree of a catalog. -/
def toTree (c : Catalog) : Tree := .object [("courses", .list (c.courses.map Course.toTree))]

end Catalog

end CourseFeed
