import CourseFeed.Row.Operation
import CourseFeed.Text.Bytes

/-!
# Writing feeds

A **`Buffer`** holds back up to 8192 bytes of a feed before they are delivered to where the feed
goes; what that is, a file or the memory, is a parameter: a state and a way to deliver bytes to it
that may be refused. A buffer that could not deliver stays full, so that writing to it goes on
failing. **`Buffer.finish`** delivers the rest.

A **`Writer`** is a buffer that counts the rows written to it.
-/

namespace CourseFeed.Feed

open CourseFeed.Text

/-- The number of bytes that are held back. -/
def bufferSize : Nat := 8192

/-- The bytes of a feed that are held back, and the name of the feed. -/
structure Buffer where
  path : String
  pending : List UInt8
  deriving Repr, DecidableEq

/-- A way to deliver bytes to a state. -/
abbrev Deliver (ω : Type) := ω → List UInt8 → Except StorageFault ω

/-- Delivers bytes behind those that are there. -/
def collect : Deliver (List UInt8) := fun bytes more => .ok (bytes ++ more)

/-- Delivers nothing. -/
def refuse : Deliver ω := fun _ _ => .error .refused

/-- Delivers whole buffers off the front of some bytes; gives what is held back, and the fault if
    a delivery was refused. -/
def drain (deliver : Deliver ω) (world : ω) (bytes : List UInt8) :
    ω × List UInt8 × Option StorageFault :=
  if _h : bytes.length ≤ bufferSize then (world, bytes, none)
  else
    match deliver world (bytes.take bufferSize) with
    | .ok world => drain deliver world (bytes.drop bufferSize)
    | .error fault => (world, bytes.take bufferSize, some fault)
termination_by bytes.length
decreasing_by
  simp only [List.length_drop, bufferSize] at *
  omega

namespace Buffer

/-- A buffer that holds nothing. -/
def empty (path : String) : Buffer := ⟨path, []⟩

/-- Writes bytes to a buffer. -/
def write (deliver : Deliver ω) (world : ω) (b : Buffer) (bytes : List UInt8) :
    ω × Buffer × Option Fault :=
  match drain deliver world (b.pending ++ bytes) with
  | (world, pending, fault) =>
    (world, { b with pending := pending }, fault.map fun f => .feed b.path (.storage f))

/-- Delivers what a buffer holds back. -/
def finish (deliver : Deliver ω) (world : ω) (b : Buffer) : ω × Option Fault :=
  if b.pending.isEmpty then (world, none)
  else
    match deliver world b.pending with
    | .ok world => (world, none)
    | .error fault => (world, some (.unwritable b.path fault))

end Buffer

/-- The bytes of a row in a feed. A row without any text takes two quotes, since a feed has no
    empty lines. -/
def rowBytes (r : Row) : List UInt8 :=
  let line := r.encode
  encodeUtf8 ((if line.isEmpty then "\"\"" else line) ++ "\n")

/-- A buffer and the number of rows written to it. -/
structure Writer where
  buffer : Buffer
  written : Nat
  deriving Repr, DecidableEq

namespace Writer

/-- A writer to which nothing was written. -/
def start (path : String) : Writer := ⟨.empty path, 0⟩

/-- Writes a row that does not count, such as the column names. -/
def writeUncounted (deliver : Deliver ω) (world : ω) (w : Writer) (r : Row) :
    ω × Writer × Option Fault :=
  match w.buffer.write deliver world (rowBytes r) with
  | (world, buffer, fault) => (world, { w with buffer := buffer }, fault)

/-- Writes a row. -/
def write (deliver : Deliver ω) (world : ω) (w : Writer) (r : Row) :
    ω × Writer × Option Fault :=
  match w.writeUncounted deliver world r with
  | (world, w, none) => (world, { w with written := w.written + 1 }, none)
  | (world, w, some fault) => (world, w, some fault)

/-- Writes a row marked with an operation. -/
def writeMarked (deliver : Deliver ω) (world : ω) (w : Writer) (r : Row) (op : Operation) :
    ω × Writer × Option Fault :=
  w.write deliver world (r.mark op)

/-- Writes rows marked with an operation up to the first fault. -/
def writeAll (deliver : Deliver ω) (op : Operation) : ω → Writer → List Row →
    ω × Writer × Option Fault
  | world, w, [] => (world, w, none)
  | world, w, r :: rest =>
    match w.writeMarked deliver world r op with
    | (world, w, none) => writeAll deliver op world w rest
    | (world, w, some fault) => (world, w, some fault)

/-- Delivers what is held back. -/
def finish (deliver : Deliver ω) (world : ω) (w : Writer) : ω × Option Fault :=
  w.buffer.finish deliver world

end Writer

end CourseFeed.Feed
