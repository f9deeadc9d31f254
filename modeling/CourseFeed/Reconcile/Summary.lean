import CourseFeed.Reconcile.Change

/-!
# Summaries

How many changes of each kind a pass has told, how many creations among them were rollovers, how
many changes were skipped, and whether the pass was broken off.
-/

namespace CourseFeed

/-- The counts of a pass. -/
structure DiffSummary where
  created : Nat
  rolledOver : Nat
  updated : Nat
  deleted : Nat
  skipped : Nat
  aborted : Bool
  deriving Repr, DecidableEq

namespace DiffSummary

/-- The counts before a pass. -/
def zero : DiffSummary := ⟨0, 0, 0, 0, 0, false⟩

/-- Counts a change that was told by a row. -/
def count (s : DiffSummary) (kind : ChangeKind) (row : Row) : DiffSummary :=
  match kind with
  | .create =>
    { s with
      created := s.created + 1
      rolledOver :=
        if row.operationCode = Operation.rollover.code then s.rolledOver + 1 else s.rolledOver }
  | .delete => { s with deleted := s.deleted + 1 }
  | .update => { s with updated := s.updated + 1 }

/-- Counts a change that was skipped. -/
def skip (s : DiffSummary) : DiffSummary := { s with skipped := s.skipped + 1 }

/-- Notes that a pass was broken off. -/
def abort (s : DiffSummary) : DiffSummary := { s with aborted := true }

/-- The number of changes that were told or skipped. -/
def total (s : DiffSummary) : Nat := s.created + s.updated + s.deleted + s.skipped

end DiffSummary

end CourseFeed
