import CourseFeed.Json.Decode

/-!
# Reading records

A record is a **`Shape`**: its named fields, each with a reader, and what makes a value of the
fields that were given. It is written as an object, where unknown members are skipped, or as a list
of its fields in their order. **`Shape.filling`** is the shape of a record whose fields all have
defaults, so that any of them may be left out.
-/

namespace CourseFeed.Json

/-- A field of a record that is collected in a `σ`. -/
structure Field (σ : Type) where
  name : String
  /-- Whether the field was given. -/
  given : σ → Bool
  /-- Reads the field. -/
  read : σ → Reader σ

/-- A field that is kept as an optional value. -/
def Field.of (name : String) (reader : Reader α) (get : σ → Option α)
    (put : σ → α → σ) : Field σ where
  name := name
  given := fun s => (get s).isSome
  read := fun s c => do
    let (value, c) ← reader c
    return (put s value, c)

/-- The shape of a record: what it is called, its fields, and how its value is made. -/
structure Shape (σ α : Type) where
  name : String
  fields : List (Field σ)
  /-- No field given yet. -/
  start : σ
  /-- Whether fields that a list does not give are left out, rather than missed. -/
  lenient : Bool
  /-- The value made of the given fields. -/
  make : σ → Except Problem α

namespace Shape

/-- What a record is called where another value was found. -/
def expected (s : Shape σ α) : String := "struct " ++ s.name

/-- What a record is called where a list ends before all fields are given. -/
def expectedLength (s : Shape σ α) : String :=
  s.expected ++ " with " ++ String.ofList (Decimal.natText s.fields.length) ++
    (if s.fields.length = 1 then " element" else " elements")

/-- Reads a member of a record. -/
def readMember (s : Shape σ α) (known : σ) (name : String) : Reader σ := fun c =>
  match s.fields.find? fun f => f.name == name with
  | some field =>
    if field.given known then .error (.pending (.duplicateField name) c)
    else do field.read known (← readColon c)
  | none => do return (known, ← skipValue (← readColon c))

/-- Makes the value of a record at the end of its members. -/
def finish (s : Shape σ α) (known : σ) (c : Cursor) : Except Failure (α × Cursor) :=
  match s.make known with
  | .ok value => .ok (value, c)
  | .error problem => .error (.pending problem c)

/-- Reads the fields of a record off a list, the first of them having number `index`. -/
def readFields (s : Shape σ α) (index : Nat) (known : σ) : List (Field σ) → Reader σ
  | [], c => .ok (known, c)
  | field :: rest, c => do
    let (more, c) ← readMoreItems (index == 0) c
    if more then
      let (known, c) ← field.read known c
      readFields s (index + 1) known rest c
    else if s.lenient then readFields s index known rest c
    else .error (.pending (.wrongLength index s.expectedLength) c)

/-- Reads a record after the bracket of a list. -/
def readAsList (s : Shape σ α) : Reader α := fun c => do
  let (known, c) ← s.readFields 0 s.start s.fields c
  s.finish known c

/-- Reads a record after the brace of an object. -/
def readAsObject (s : Shape σ α) : Reader α := fun c => do
  let (known, c) ← readMembers s.readMember s.start c
  s.finish known c

/-- Reads a record. -/
def read (s : Shape σ α) : Reader α :=
  dispatch (fun ch c =>
    if ch = '[' then some (settle closeList (s.readAsList c.next))
    else if ch = '\x7b' then some (settle closeObject (s.readAsObject c.next))
    else none) s.expected

end Shape

/-! ## Fields with defaults -/

/-- A record with its defaults where no field was given, and the names of the given fields. -/
structure Filled (α : Type) where
  record : α
  given : List String

/-- A field that replaces its default. -/
def Field.into (name : String) (reader : Reader β) (put : α → β → α) : Field (Filled α) where
  name := name
  given := fun s => s.given.contains name
  read := fun s c => do
    let (value, c) ← reader c
    return (⟨put s.record value, name :: s.given⟩, c)

/-- The shape of a record whose fields all have defaults. -/
def Shape.filling (name : String) (defaults : α) (fields : List (Field (Filled α))) :
    Shape (Filled α) α where
  name := name
  fields := fields
  start := ⟨defaults, []⟩
  lenient := true
  make := fun s => .ok s.record

/-! ## Fields without defaults -/

/-- The value of a field that has to be given. -/
def needed (name : String) (value : Option α) : Except Problem α :=
  match value with
  | some x => .ok x
  | none => .error (.missingField name)

end CourseFeed.Json
