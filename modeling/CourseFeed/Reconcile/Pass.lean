import CourseFeed.Feed.Writer
import CourseFeed.Journal
import CourseFeed.Reconcile.Summary

/-!
# Passes

A pass tells the changes between two generations of a feed. Each change is first shown to an
observer, who lets it be told, skips it or breaks the pass off; a change that is told is written
to the buffer of its kind, if there is one.

What a pass acts on is a **`Stage`**: a state with a way to ask the observer, to deliver bytes and
to note something down, each of which may change the state. A failing delivery ends the pass.
**`Outputs.finish`** delivers what the buffers hold back, all of them even after a fault.
-/

namespace CourseFeed

open CourseFeed.Feed

/-- The answer of an observer. -/
inductive Flow where
  | proceed
  | skip
  | abort
  deriving Repr, DecidableEq

/-- What a pass acts on. -/
structure Stage (ω : Type) where
  /-- Shows a change to the observer. -/
  observe : ω → Change → ω × Flow
  /-- Delivers bytes to where changes of a kind go. -/
  deliver : ChangeKind → Deliver ω
  /-- Notes something down. -/
  note : ω → JournalEntry → ω

/-- The buffers of the kinds of change, where changes of a kind are written at all. -/
structure Outputs where
  create : Option Buffer
  delete : Option Buffer
  update : Option Buffer
  deriving Repr, DecidableEq

namespace Outputs

/-- No buffers. -/
def none : Outputs := ⟨.none, .none, .none⟩

/-- The buffer of a kind. -/
def get (o : Outputs) : ChangeKind → Option Buffer
  | .create => o.create
  | .delete => o.delete
  | .update => o.update

/-- The buffers with another one for a kind. -/
def set (o : Outputs) (kind : ChangeKind) (buffer : Buffer) : Outputs :=
  match kind with
  | .create => { o with create := some buffer }
  | .delete => { o with delete := some buffer }
  | .update => { o with update := some buffer }

/-- Writes a row to the buffer of a kind. -/
def write (stage : Stage ω) (world : ω) (o : Outputs) (kind : ChangeKind) (row : Row) :
    ω × Outputs × Option Fault :=
  match o.get kind with
  | .none => (world, o, .none)
  | some buffer =>
    match buffer.write (stage.deliver kind) world (rowBytes row) with
    | (world, buffer, fault) => (world, o.set kind buffer, fault)

/-- Delivers what the buffer of a kind holds back; an earlier fault stays the one reported. -/
def finishKind (stage : Stage ω) (o : Outputs) (state : ω × Option Fault) (kind : ChangeKind) :
    ω × Option Fault :=
  match o.get kind with
  | .none => state
  | some buffer =>
    match buffer.finish (stage.deliver kind) state.1 with
    | (world, fault) => (world, state.2.or fault)

/-- Delivers what the buffers hold back; the first fault is reported. -/
def finish (stage : Stage ω) (world : ω) (o : Outputs) : ω × Option Fault :=
  ChangeKind.all.foldl (o.finishKind stage) (world, .none)

end Outputs

/-- How far a pass has come. -/
structure Progress (ω : Type) where
  world : ω
  outputs : Outputs
  summary : DiffSummary

/-- The part of the program that notes down passes. -/
def diffPart : String := "cl_core::diff"

/-- Tells a change: writes its row and counts it. -/
def Progress.tell (stage : Stage ω) (options : DiffOptions) (p : Progress ω) (c : Change) :
    Progress ω × Option Fault :=
  let row := c.format options
  match p.outputs.write stage p.world c.kind row with
  | (world, outputs, none) => (⟨world, outputs, p.summary.count c.kind row⟩, none)
  | (world, outputs, some fault) => (⟨world, outputs, p.summary⟩, some fault)

/-- Passes over a change: notes it down and counts it. -/
def Progress.skip (stage : Stage ω) (p : Progress ω) (c : Change) : Progress ω :=
  let entry := .plain .debug diffPart ("Skipping " ++ c.kind.name ++ " of " ++ c.key.text)
  { p with world := stage.note p.world entry, summary := p.summary.skip }

/-- Breaks off at a change. -/
def Progress.abort (stage : Stage ω) (p : Progress ω) (c : Change) : Progress ω :=
  let entry := .plain .info diffPart ("Diff aborted at " ++ c.key.text)
  { p with world := stage.note p.world entry, summary := p.summary.abort }

/-- Goes through changes to the end, to the first that the observer breaks off at, or to the first
    fault. -/
def Progress.run (stage : Stage ω) (options : DiffOptions) :
    Progress ω → List Change → Progress ω × Option Fault
  | p, [] => (p, none)
  | p, c :: rest =>
    match stage.observe p.world c with
    | (world, .proceed) =>
      match Progress.tell stage options { p with world := world } c with
      | (p, none) => Progress.run stage options p rest
      | (p, some fault) => (p, some fault)
    | (world, .skip) =>
      Progress.run stage options (Progress.skip stage { p with world := world } c) rest
    | (world, .abort) => (Progress.abort stage { p with world := world } c, none)

/-- Tells the changes from the old rows to the new ones. -/
def diffRows (stage : Stage ω) (options : DiffOptions) (old new : Keyed) (world : ω)
    (outputs : Outputs) : Progress ω × Option Fault :=
  Progress.run stage options ⟨world, outputs, .zero⟩ (changes old new)

end CourseFeed
