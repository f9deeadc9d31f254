/-!
# Records

A feed is a text of records. A record is a run of fields set apart by tabs; a line feed or a
carriage return ends it, and line ends before a record belong to it, so there are no empty records.

The definitions hold for any kind of symbol, since a feed that is no text has to be looked at by
bytes to say where it fails.
-/

namespace CourseFeed.Feed

/-- The symbols that rule a feed. -/
structure Marks (α : Type) where
  tab : α
  lineFeed : α
  carriageReturn : α

/-- A record: its fields, and the line and the offset at which reading it began. -/
structure Record (α : Type) where
  fields : List (List α)
  line : Nat
  offset : Nat
  deriving Repr, DecidableEq

variable {α : Type} [DecidableEq α]

/-- Whether a symbol ends a line. -/
def Marks.isBreak (m : Marks α) (c : α) : Bool := c = m.lineFeed || c = m.carriageReturn

/-- Puts a symbol before the first of some fields. -/
def consField (c : α) : List (List α) → List (List α)
  | [] => [[c]]
  | field :: rest => (c :: field) :: rest

/-- The fields up to the end of a record, and the text behind that end. -/
def takeRecord (m : Marks α) : List α → List (List α) × List α
  | [] => ([[]], [])
  | c :: rest =>
    if m.isBreak c then ([[]], rest)
    else
      let (fields, after) := takeRecord m rest
      if c = m.tab then ([] :: fields, after) else (consField c fields, after)

theorem length_takeRecord_le (m : Marks α) (text : List α) :
    (takeRecord m text).2.length ≤ text.length := by
  induction text with
  | nil => simp [takeRecord]
  | cons c rest ih =>
    simp only [takeRecord]
    split
    · simp
    · split <;> simp <;> omega

theorem length_takeRecord_lt (m : Marks α) {text : List α} (h : text ≠ []) :
    (takeRecord m text).2.length < text.length := by
  cases text with
  | nil => exact absurd rfl h
  | cons c rest =>
    have := length_takeRecord_le m rest
    simp only [takeRecord]
    split
    · simp
    · split <;> simp <;> omega

/-- The records of a text that begins at a line and an offset. -/
def recordsFrom (m : Marks α) (line offset : Nat) (text : List α) : List (Record α) :=
  let start := text.dropWhile m.isBreak
  if _h : start = [] then []
  else
    let fields := (takeRecord m start).1
    let after := (takeRecord m start).2
    let taken := text.take (text.length - after.length)
    ⟨fields, line, offset⟩ ::
      recordsFrom m (line + taken.count m.lineFeed) (offset + taken.length) after
termination_by text.length
decreasing_by
  have shorter := length_takeRecord_lt m _h
  have : (text.dropWhile m.isBreak).length ≤ text.length :=
    (List.dropWhile_suffix m.isBreak).length_le
  exact Nat.lt_of_lt_of_le shorter this

/-- The marks in a text of characters. -/
def charMarks : Marks Char := ⟨'\t', '\n', '\r'⟩

/-- The marks in a list of bytes. -/
def byteMarks : Marks UInt8 := ⟨9, 10, 13⟩

/-- The records of a text. A byte order mark at its start is no part of it. -/
def recordsOfText (text : List Char) : List (Record Char) :=
  match text with
  | '\ufeff' :: rest => recordsFrom charMarks 1 3 rest
  | _ => recordsFrom charMarks 1 0 text

/-- The records of some bytes. A byte order mark at their start is no part of them. -/
def recordsOfBytes (bytes : List UInt8) : List (Record UInt8) :=
  match bytes with
  | 0xEF :: 0xBB :: 0xBF :: rest => recordsFrom byteMarks 1 3 rest
  | _ => recordsFrom byteMarks 1 0 bytes

end CourseFeed.Feed
