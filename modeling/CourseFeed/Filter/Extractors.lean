import CourseFeed.Filter.Error
import CourseFeed.Named

/-!
# Extractors

An extractor takes a field off an element. **`Extractors`** is a table of them by name, one of
which may be the default. Looking up a name that is not there, or no name where there is no
default, is an error, and so is looking up anything in an empty table.
-/

namespace CourseFeed

open CourseFeed.Text

/-- A table of named extractors for elements of a type, in the order of their names. -/
structure Extractors (ε : Type) where
  entries : List (String × (ε → Value))
  default? : Option String

namespace Extractors

variable {ε : Type}

/-- The table without extractors. -/
def empty : Extractors ε := ⟨[], none⟩

/-- The table with an extractor added, in place of an older one of its name. -/
def insert (t : Extractors ε) (name : String) (extract : ε → Value) : Extractors ε :=
  { t with entries := insertNamed name extract t.entries }

/-- The table with another default. -/
def withDefault (t : Extractors ε) (name : String) : Extractors ε :=
  { t with default? := some name }

/-- Whether there are no extractors. -/
def isEmpty (t : Extractors ε) : Bool := t.entries.isEmpty

/-- The names of the extractors in order. -/
def names (t : Extractors ε) : List String := t.entries.map Prod.fst

/-- The extractor with a name, or the default one, together with its name. -/
def resolve (t : Extractors ε) (name : Option String) :
    Except FilterError (String × (ε → Value)) :=
  if t.isEmpty then .error .noExtractors
  else
    match name.or t.default? with
    | none => .error .noDefaultExtractor
    | some name =>
      match findNamed? name t.entries with
      | some extract => .ok (name, extract)
      | none => .error (.unknownExtractor name)

/-- A description of a table. -/
def describe (t : Extractors ε) : String :=
  "ExtractorTable \x7b extractors: [" ++ String.intercalate ", " (t.names.map quoted) ++
    "], default: " ++ (t.default?.elim "None" fun name => "Some(" ++ quoted name ++ ")") ++ " \x7d"

end Extractors

end CourseFeed
