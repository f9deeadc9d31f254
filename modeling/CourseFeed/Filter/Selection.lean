import CourseFeed.Filter.Criterion

/-!
# Filters on elements

A **`Filter`** is a criterion together with the extractor whose field it judges. Some filters
accept an element together when each of them does.
-/

namespace CourseFeed

/-- A criterion and the extractor of the field that it judges. -/
structure Filter (ε : Type) where
  criterion : Criterion
  extract : ε → Value

/-- Whether a filter accepts an element. -/
def Filter.accepts (f : Filter ε) (element : ε) : Bool :=
  f.criterion.accepts (f.extract element)

/-- Whether all of some filters accept an element. -/
def acceptedByAll (filters : List (Filter ε)) (element : ε) : Bool :=
  filters.all fun f => f.accepts element

namespace Extractors

/-- The filter that an expression means. -/
def compile (t : Extractors ε) (expression : String) : Except FilterError (Filter ε) := do
  let criterion ← Criterion.parse expression t
  let (_, extract) ← t.resolve criterion.extractor
  return ⟨criterion, extract⟩

/-- The filters that some expressions mean, or the error of the first that means none. -/
def compileAll (t : Extractors ε) : List String → Except FilterError (List (Filter ε))
  | [] => .ok []
  | expression :: rest => do
    let filter ← t.compile expression
    return filter :: (← t.compileAll rest)

end Extractors

end CourseFeed
