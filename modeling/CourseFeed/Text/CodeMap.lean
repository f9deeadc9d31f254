import CourseFeed.Text.CharSet

/-!
# Maps on code points by rows

The case maps of characters move long stretches of code points by one distance. A **`CodeMap`** is
a list of rows: the first and the last code point of a stretch, the step between its members and
the code point that the first one is sent to. What no row holds is sent to itself.
-/

namespace CourseFeed.Text

/-- A stretch of code points that is moved by one distance. -/
structure CodeRow where
  first : Nat
  last : Nat
  step : Nat
  target : Nat

/-- A map on code points, given by rows. -/
structure CodeMap where
  rows : List CodeRow

namespace CodeRow

/-- Whether a code point is moved by the row. -/
def holds (r : CodeRow) (n : Nat) : Bool :=
  r.first ≤ n && n ≤ r.last && (n - r.first) % r.step == 0

/-- The moved code points with their images. -/
def pairs (r : CodeRow) : List (Nat × Nat) :=
  (List.range ((r.last - r.first) / r.step + 1)).map fun i =>
    (r.first + i * r.step, r.target + i * r.step)

end CodeRow

namespace CodeMap

/-- Groups numbers by four into rows. -/
def groupRows : List Nat → List CodeRow
  | first :: last :: step :: target :: rest => ⟨first, last, step, target⟩ :: groupRows rest
  | _ => []

/-- Reads rows of four numbers each, written in base 36. -/
def ofRows (lines : List String) : CodeMap := ⟨groupRows (CharSet.tableNumbers lines)⟩

/-- The image of a code point. -/
def applyCode (m : CodeMap) (n : Nat) : Nat :=
  match m.rows.find? fun r => r.holds n with
  | some r => r.target + (n - r.first)
  | none => n

/-- The image of a character. -/
def apply (m : CodeMap) (c : Char) : Char := Char.ofNat (m.applyCode c.toNat)

/-- All moved code points with their images. -/
def pairs (m : CodeMap) : List (Nat × Nat) := m.rows.flatMap CodeRow.pairs

end CodeMap

end CourseFeed.Text
