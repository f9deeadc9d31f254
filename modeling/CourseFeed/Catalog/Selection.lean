import CourseFeed.Catalog.Basic
import CourseFeed.Filter.Selection

/-!
# Selecting elements of a catalog

**`Catalog.extractors`** names the fields of an element that filters can judge, and
**`Catalog.elements`** lists the elements that some filters accept: year by year, the courses of a
year in the order of the catalog, the cohorts of a course in their order.
-/

namespace CourseFeed

namespace Catalog

/-- The fields of an element by name. The course code is the default. -/
def extractors : Extractors Element :=
  (List.foldl (fun table (name, extract) => table.insert name extract) Extractors.empty
    [ ("code", fun (e : Element) => Value.text e.course.code),
      ("title", fun e => .text e.course.title),
      ("section", fun e => .text e.sectionId),
      ("year", fun e => .ofInt e.year),
      ("department", fun e => .text e.course.academicDepartment),
      ("term", fun e => .ofTexts e.course.terms),
      ("instructor", fun e => .ofTexts e.instructors),
      ("cohort", fun e => .ofText? (e.cohort.map Cohort.code)),
      ("participants", fun e => e.participants.elim .null fun n => .ofInt n) ]).withDefault "code"

/-- The elements of a year that some filters accept. -/
def elementsOf (c : Catalog) (filters : List (Filter Element)) (year : Int) : List Element :=
  ((c.coursesOf year).flatMap (Course.elements year)).filter (acceptedByAll filters)

/-- The elements that some filters accept. -/
def elements (c : Catalog) (filters : List (Filter Element)) : List Element :=
  c.years.flatMap (c.elementsOf filters)

end Catalog

end CourseFeed
