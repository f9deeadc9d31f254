import CourseFeed.Json.Error

/-!
# Cursors and readers

A **`Cursor`** is the unread rest of a text with the position reached. A **`Reader`** takes a
cursor and gives a value with the cursor behind it, or a failure. Failures are of two kinds, since
the place of some problems is known only to the reader of the enclosing value: such a failure is
left open and carries the cursor where it arose.

Each problem is reported either *here*, where reading has come to, or *ahead*, counting the byte
that was looked at and not taken.
-/

namespace CourseFeed.Json

/-- The position after a character. -/
def Position.after (p : Position) (c : Char) : Position :=
  if c = '\n' then ⟨p.line + 1, 0⟩ else ⟨p.line, p.column + c.utf8Size⟩

/-- The position after the first `n` bytes of a text. -/
def Position.afterBytes (p : Position) : Nat → List Char → Position
  | 0, _ => p
  | _, [] => p
  | n + 1, c :: rest =>
    if c.utf8Size ≤ n + 1 then (p.after c).afterBytes (n + 1 - c.utf8Size) rest
    else ⟨p.line, p.column + (n + 1)⟩

/-- The rest of a text and the position reached. -/
structure Cursor where
  rest : List Char
  here : Position
  deriving Repr, DecidableEq

namespace Cursor

/-- The start of a text. -/
def start (text : String) : Cursor := ⟨text.toList, ⟨1, 0⟩⟩

/-- The position when the next byte is counted too. -/
def ahead (c : Cursor) : Position := c.here.afterBytes 1 c.rest

/-- The next character. -/
def peek? (c : Cursor) : Option Char := c.rest.head?

/-- The cursor after the next character. -/
def next (c : Cursor) : Cursor :=
  match c.rest with
  | [] => c
  | ch :: rest => ⟨rest, c.here.after ch⟩

/-- The cursor at the end of the text. -/
def toEnd (c : Cursor) : Cursor := ⟨[], c.rest.foldl Position.after c.here⟩

end Cursor

/-- Why reading stopped: a placed error, or a problem whose place is still open. -/
inductive Failure where
  | placed (error : Error)
  | pending (problem : Problem) (raised : Cursor)
  deriving Repr, DecidableEq

/-- The result of reading. -/
abbrev Outcome (α : Type) := Except Failure (α × Cursor)

/-- What takes a value off the front of a text. -/
abbrev Reader (α : Type) := Cursor → Except Failure (α × Cursor)

namespace Cursor

/-- A failure at the position reached. -/
def fail (c : Cursor) (p : Problem) : Except Failure α := .error (.placed ⟨p, c.here⟩)

/-- A failure that counts the byte looked at. -/
def failAhead (c : Cursor) (p : Problem) : Except Failure α := .error (.placed ⟨p, c.ahead⟩)

end Cursor

/-- The blanks between the parts of a JSON text. -/
def isSpace (c : Char) : Bool := c = ' ' || c = '\n' || c = '\t' || c = '\r'

/-- The cursor after leading blanks. -/
def skipSpaceFrom (here : Position) : List Char → Cursor
  | [] => ⟨[], here⟩
  | c :: rest => if isSpace c then skipSpaceFrom (here.after c) rest else ⟨c :: rest, here⟩

/-- The cursor after leading blanks. -/
def Cursor.skipSpace (c : Cursor) : Cursor := skipSpaceFrom c.here c.rest

/-- Reads the letters of a word. -/
def readWord : List Char → Cursor → Except Failure Cursor
  | [], c => .ok c
  | letter :: word, c =>
    match c.peek? with
    | none => c.fail .endInValue
    | some ch => if ch = letter then readWord word c.next else c.failAhead .wordExpected

end CourseFeed.Json
