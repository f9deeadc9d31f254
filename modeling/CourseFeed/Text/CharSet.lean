/-!
# Sets of characters as spans of code points

A `CharSet` is a list of closed spans of code points. The sets this library builds are *ordered*:
their spans rise and do not touch, so a look-up may stop at the first span that lies beyond.

* **`CharSet.ofSpans`** orders any list of spans and merges those that overlap or touch.
* **`CharSet.union`**, **`complement`**, **`inter`**, **`diff`** and **`symmDiff`** are the
  operations on sets; the last three come from the first two by the usual identities.
* **`CharSet.ofRuns`** reads a table written as run lengths: the length of a run outside the set,
  then of one inside it, and so on, each in base 36 and set apart by blanks.
-/

namespace CourseFeed.Text

/-- A set of characters, given by closed spans of code points. -/
structure CharSet where
  spans : List (Nat × Nat)
  deriving Repr, DecidableEq

namespace CharSet

/-- The largest code point. -/
def lastCode : Nat := 0x10FFFF

/-- The set without characters. -/
def empty : CharSet := ⟨[]⟩

/-- The set of all characters. -/
def all : CharSet := ⟨[(0, lastCode)]⟩

/-- Looks a code point up among rising spans. -/
def coversCode (n : Nat) : List (Nat × Nat) → Bool
  | [] => false
  | (lo, hi) :: rest => if n < lo then false else if n ≤ hi then true else coversCode n rest

theorem coversCode_cons_iff {n lo hi : Nat} {rest : List (Nat × Nat)} :
    coversCode n ((lo, hi) :: rest) = true ↔ lo ≤ n ∧ (n ≤ hi ∨ coversCode n rest = true) := by
  rw [coversCode]
  by_cases hlow : n < lo
  · rw [if_pos hlow]
    constructor
    · intro h
      cases h
    · intro h
      exact absurd h.1 (Nat.not_le_of_lt hlow)
  · rw [if_neg hlow]
    by_cases hhigh : n ≤ hi
    · rw [if_pos hhigh]
      exact ⟨fun _ => ⟨Nat.le_of_not_lt hlow, Or.inl hhigh⟩, fun _ => rfl⟩
    · rw [if_neg hhigh]
      exact ⟨fun h => ⟨Nat.le_of_not_lt hlow, Or.inr h⟩, fun h => h.2.resolve_left hhigh⟩

/-- Whether a character is in the set. -/
def contains (s : CharSet) (c : Char) : Bool := coversCode c.toNat s.spans

/-- Merges a span into a list of spans that begin no earlier. -/
def mergeFrom (lo hi : Nat) : List (Nat × Nat) → List (Nat × Nat)
  | [] => [(lo, hi)]
  | (lo', hi') :: rest =>
    if lo' ≤ hi + 1 then mergeFrom lo (max hi hi') rest else (lo, hi) :: mergeFrom lo' hi' rest

/-- The ordered set that covers the same code points as a list of spans. -/
def ofSpans (spans : List (Nat × Nat)) : CharSet :=
  match (spans.filter fun s => s.1 ≤ s.2).mergeSort fun a b => a.1 ≤ b.1 with
  | [] => empty
  | (lo, hi) :: rest => ⟨mergeFrom lo hi rest⟩

/-- The set of one character. -/
def singleton (c : Char) : CharSet := ⟨[(c.toNat, c.toNat)]⟩

/-- The set of the characters from `lo` to `hi`, both included. -/
def range (lo hi : Char) : CharSet := ofSpans [(lo.toNat, hi.toNat)]

/-- The characters in either set. -/
def union (a b : CharSet) : CharSet := ofSpans (a.spans ++ b.spans)

/-- The characters in some set of a list. -/
def unions (sets : List CharSet) : CharSet := ofSpans (sets.flatMap spans)

/-- The gaps between ordered spans, from the code point `start` on. -/
def gapsFrom (start : Nat) : List (Nat × Nat) → List (Nat × Nat)
  | [] => if start ≤ lastCode then [(start, lastCode)] else []
  | (lo, hi) :: rest =>
    if start < lo then (start, lo - 1) :: gapsFrom (hi + 1) rest else gapsFrom (hi + 1) rest

/-- The characters outside an ordered set. -/
def complement (s : CharSet) : CharSet := ⟨gapsFrom 0 s.spans⟩

/-- The characters in both sets. -/
def inter (a b : CharSet) : CharSet := (a.complement.union b.complement).complement

/-- The characters in the first set and not in the second. -/
def diff (a b : CharSet) : CharSet := (a.complement.union b).complement

/-- The characters in exactly one of two sets. -/
def symmDiff (a b : CharSet) : CharSet := (a.diff b).union (b.diff a)

/-- The value of a digit in base 36, or `none` for another character. -/
def baseDigit? (c : Char) : Option Nat :=
  if '0' ≤ c ∧ c ≤ '9' then some (c.toNat - 48)
  else if 'a' ≤ c ∧ c ≤ 'z' then some (c.toNat - 87)
  else none

/-- Reads numbers in base 36, any other character ending a number. -/
def runLengths : List Char → Option Nat → List Nat
  | [], none => []
  | [], some n => [n]
  | c :: rest, open? =>
    match baseDigit? c, open? with
    | some d, none => runLengths rest (some d)
    | some d, some n => runLengths rest (some (n * 36 + d))
    | none, none => runLengths rest none
    | none, some n => n :: runLengths rest none

/-- The spans of runs that lie outside and inside by turns, from the code point `start` on. -/
def spansOfRuns (start : Nat) : List Nat → List (Nat × Nat)
  | outside :: inside :: rest =>
    let lo := start + outside
    if inside = 0 then spansOfRuns lo rest
    else (lo, lo + inside - 1) :: spansOfRuns (lo + inside) rest
  | _ => []

/-- The numbers in the lines of a table. -/
def tableNumbers (lines : List String) : List Nat :=
  lines.flatMap fun line => runLengths line.toList none

/-- The set that a table of run lengths describes. -/
def ofRuns (lines : List String) : CharSet := ⟨spansOfRuns 0 (tableNumbers lines)⟩

end CharSet

end CourseFeed.Text
