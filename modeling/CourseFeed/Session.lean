import CourseFeed.Fault
import CourseFeed.Journal
import CourseFeed.Text.Bytes

/-!
# Sessions

A **`Session`** is the storage that a program works on, and the file in which it keeps its journal.
A file that is written through a session is a **`Handle`**: its place and the offset reached.
-/

namespace CourseFeed

open CourseFeed.Text

/-- The file of a journal: where it is, from which level on entries are kept, and what stands for
    the time before each of them. -/
structure JournalFile where
  location : Location
  least : Level
  time : String
  deriving Repr, DecidableEq

/-- The storage that a program works on, and its journal. -/
structure Session where
  storage : Storage
  journal : Option JournalFile
  deriving Repr, DecidableEq

/-- Notes something down in the journal. -/
def Session.note (s : Session) (entry : JournalEntry) : Session :=
  match s.journal with
  | none => s
  | some journal =>
    if journal.least.keptFrom entry.level then
      { s with storage := s.storage.append journal.location (encodeUtf8 (entry.line journal.time)) }
    else s

/-! ## Open files -/

/-- A file that is being written, and the offset reached. -/
structure Handle where
  location : Location
  offset : Nat
  deriving Repr, DecidableEq

/-- Writes to an open file. -/
def Session.writeTo (s : Session) (h : Handle) (bytes : List UInt8) : Session × Handle :=
  ({ s with storage := s.storage.writeAt h.location h.offset bytes },
    { h with offset := h.offset + bytes.length })

/-- Empties the file of a path or makes a new one, and opens it. -/
def Session.create (s : Session) (path : String) : Except Fault (Session × Handle) :=
  match s.storage.create path with
  | .ok (storage, location) => .ok ({ s with storage := storage }, ⟨location, 0⟩)
  | .error fault => .error (.unwritable path fault)

end CourseFeed
