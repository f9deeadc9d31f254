import CourseFeed.Reconcile.Pass

/-!
# Passes in memory

A pass whose feeds are kept in memory: a **`Shelf`** holds the bytes delivered for each kind of
change, and may refuse deliveries of some kinds. The observer is any function on a state of its
own.
-/

namespace CourseFeed

open CourseFeed.Feed

/-- An observer: from its state, a change and the options to a state and an answer. -/
abbrev Observer (σ : Type) := σ → Change → DiffOptions → σ × Flow

/-- The observer that lets every change be told. -/
def Observer.always : Observer σ := fun s _ _ => (s, .proceed)

/-- The bytes delivered for each kind of change, and the kinds of which none are taken. -/
structure Shelf where
  create : List UInt8
  delete : List UInt8
  update : List UInt8
  refused : List ChangeKind
  deriving Repr, DecidableEq

namespace Shelf

/-- Nothing delivered. -/
def empty (refused : List ChangeKind) : Shelf := ⟨[], [], [], refused⟩

/-- The bytes delivered for a kind. -/
def get (s : Shelf) : ChangeKind → List UInt8
  | .create => s.create
  | .delete => s.delete
  | .update => s.update

/-- Takes a delivery. -/
def deliver (kind : ChangeKind) : Deliver Shelf := fun s bytes =>
  if s.refused.contains kind then .error .refused
  else
    match kind with
    | .create => .ok { s with create := s.create ++ bytes }
    | .delete => .ok { s with delete := s.delete ++ bytes }
    | .update => .ok { s with update := s.update ++ bytes }

end Shelf

/-- The stage of a pass in memory. -/
def memoryStage (options : DiffOptions) (observer : Observer σ) : Stage (σ × Shelf) where
  observe := fun (state, shelf) change =>
    match observer state change options with
    | (state, flow) => ((state, shelf), flow)
  deliver := fun kind (state, shelf) bytes => do
    return (state, ← Shelf.deliver kind shelf bytes)
  note := fun world _ => world

end CourseFeed
