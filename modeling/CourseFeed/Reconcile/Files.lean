import CourseFeed.Feed.Reader
import CourseFeed.Reconcile.Memory
import CourseFeed.Session

/-!
# Passes on files

**`diffFiles`** reconciles two stored feeds and writes the changes to files, one for each kind. Both
feeds are read before any file is opened for writing, and every file that was opened gets all that
was written to it, whatever goes wrong. Each file is written at its own offset, also where two
kinds of change go to one file.
-/

namespace CourseFeed

open CourseFeed.Feed CourseFeed.Decimal

/-! ## Sinks -/

/-- Where the changes of each kind go. -/
structure DiffSinks where
  create : Option String
  delete : Option String
  update : Option String
  deriving Repr, DecidableEq

/-- The path for a kind of change. -/
def DiffSinks.get (s : DiffSinks) : ChangeKind → Option String
  | .create => s.create
  | .delete => s.delete
  | .update => s.update

/-- The open files of a pass. -/
structure Handles where
  create : Option Handle
  delete : Option Handle
  update : Option Handle
  deriving Repr, DecidableEq

namespace Handles

/-- No open files. -/
def none : Handles := ⟨.none, .none, .none⟩

/-- The open file for a kind of change. -/
def get (h : Handles) : ChangeKind → Option Handle
  | .create => h.create
  | .delete => h.delete
  | .update => h.update

/-- The open files with another one for a kind of change. -/
def set (h : Handles) (kind : ChangeKind) (handle : Handle) : Handles :=
  match kind with
  | .create => { h with create := some handle }
  | .delete => { h with delete := some handle }
  | .update => { h with update := some handle }

end Handles

/-- Opens the files for some kinds of change, up to the first that cannot be opened. -/
def openSinks (sinks : DiffSinks) :
    Session → Handles → Outputs → List ChangeKind → Session × Except Fault (Handles × Outputs)
  | s, handles, outputs, [] => (s, .ok (handles, outputs))
  | s, handles, outputs, kind :: rest =>
    match sinks.get kind with
    | none => openSinks sinks s handles outputs rest
    | some path =>
      match s.create path with
      | .ok (s, handle) =>
        openSinks sinks s (handles.set kind handle) (outputs.set kind (.empty path)) rest
      | .error fault => (s, .error fault)

/-! ## Reconciling files -/

/-- What a pass on files acts on: the state of the observer, the session and the open files. -/
structure FileWorld (σ : Type) where
  state : σ
  session : Session
  handles : Handles

/-- The stage of a pass on files. Before the observer answers, what `announce` says about a change
    is noted down. -/
def fileStage (options : DiffOptions) (announce : Change → List JournalEntry)
    (observer : Observer σ) : Stage (FileWorld σ) where
  observe := fun w change =>
    let session := (announce change).foldl Session.note w.session
    match observer w.state change options with
    | (state, flow) => ({ w with state := state, session := session }, flow)
  deliver := fun kind w bytes =>
    match w.handles.get kind with
    | none => .ok w
    | some handle =>
      let (session, handle) := w.session.writeTo handle bytes
      .ok { w with session := session, handles := w.handles.set kind handle }
  note := fun w entry => { w with session := w.session.note entry }

/-- Loads the rows of a stored feed by key. -/
def loadKeyed (s : Session) (path : String) : Session × Except Fault Keyed :=
  match readRows s.storage path with
  | .error fault => (s, .error fault)
  | .ok rows =>
    let keyed := Keyed.ofRows rows
    let entry := JournalEntry.plain .debug diffPart
      ("Loaded " ++ String.ofList (natText keyed.size) ++ " keys from " ++ path)
    (s.note entry, .ok keyed)

/-- What is noted down at the end of a pass. -/
def completion (s : DiffSummary) : JournalEntry :=
  let n := fun (k : Nat) => String.ofList (natText k)
  .plain .info diffPart
    ("Diff complete: " ++ n s.created ++ " created (" ++ n s.rolledOver ++ " rollover), " ++
      n s.updated ++ " updated, " ++ n s.deleted ++ " deleted, " ++ n s.skipped ++ " skipped")

/-- Runs a pass on opened files and delivers all that was written. -/
def runOnFiles (stage : Stage (FileWorld σ)) (options : DiffOptions) (old new : Keyed)
    (world : FileWorld σ) (outputs : Outputs) : Session × Except Fault DiffSummary :=
  let (progress, fault) := diffRows stage options old new world outputs
  let (world, finishFault) := progress.outputs.finish stage progress.world
  match fault.or finishFault with
  | some fault => (world.session, .error fault)
  | none => (world.session.note (completion progress.summary), .ok progress.summary)

/-- Reconciles two stored feeds. -/
def diffFiles (s : Session) (old new : String) (sinks : DiffSinks) (options : DiffOptions)
    (announce : Change → List JournalEntry) (observer : Observer σ) (state : σ) :
    Session × Except Fault DiffSummary :=
  match loadKeyed s old with
  | (s, .error fault) => (s, .error fault)
  | (s, .ok old) =>
    match loadKeyed s new with
    | (s, .error fault) => (s, .error fault)
    | (s, .ok new) =>
      match openSinks sinks s .none .none ChangeKind.all with
      | (s, .error fault) => (s, .error fault)
      | (s, .ok (handles, outputs)) =>
        runOnFiles (fileStage options announce observer) options old new ⟨state, s, handles⟩
          outputs

end CourseFeed
