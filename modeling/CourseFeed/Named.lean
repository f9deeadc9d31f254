/-!
# Values by name

A list of named values in the order of their names, each name once. **`insertNamed`** keeps this
order and puts the new value in place of an older one of its name; **`findNamed?`** looks a name
up.
-/

namespace CourseFeed

/-- Puts a value among values ordered by name, in place of one with its name. -/
def insertNamed (name : String) (value : α) : List (String × α) → List (String × α)
  | [] => [(name, value)]
  | (other, old) :: rest =>
    if name < other then (name, value) :: (other, old) :: rest
    else if name = other then (name, value) :: rest
    else (other, old) :: insertNamed name value rest

/-- The value with a name. -/
def findNamed? (name : String) : List (String × α) → Option α
  | [] => none
  | (other, value) :: rest => if name = other then some value else findNamed? name rest

/-- Whether some value has a name. -/
def hasName (name : String) (values : List (String × α)) : Bool :=
  (findNamed? name values).isSome

/-- The order of two texts by code points. -/
def textOrder (a b : String) : Ordering := if a < b then .lt else if a = b then .eq else .gt

end CourseFeed
