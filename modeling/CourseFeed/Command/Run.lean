import CourseFeed.Catalog.Export
import CourseFeed.Command.Request
import CourseFeed.Feed.File
import CourseFeed.Settings.Json

/-!
# Running requests

**`Request.run`** does what is asked on a storage and gives the storage afterwards, what is shown,
and the fault if there was one. Settings, catalog and filters of an export, and both feeds that are
reconciled, are read before any feed is written; only the journal is opened before that.
-/

namespace CourseFeed.Command

open CourseFeed.Decimal CourseFeed.Feed

/-- The part of the program that notes down requests. -/
def commandPart : String := "cl_cli"

/-- A number as a text. -/
def countText (n : Nat) : String := String.ofList (natText n)

/-- A session that keeps its journal in a file, if a path for it is given. The file is made unless
    it is there. -/
def openSession (storage : Storage) (logFile : Option String) (verbose : Bool) (time : String) :
    Except Fault Session :=
  match logFile with
  | none => .ok ⟨storage, none⟩
  | some path =>
    match storage.ensure path with
    | .ok (storage, location) =>
      .ok ⟨storage, some ⟨location, if verbose then .debug else .info, time⟩⟩
    | .error fault => .error (.unwritable path fault)

/-! ## Exporting -/

/-- The settings of an export: those laid over the stored ones. -/
def ExportRequest.settings (r : ExportRequest) (storage : Storage) : Except Fault Settings :=
  match r.config with
  | none => .ok r.overrides
  | some path => do return (← Settings.load storage path).merge r.overrides

/-- What an export reads and where it goes. -/
structure ExportPlan where
  catalogPath : String
  outputPath : String
  catalog : Catalog

/-- The plan that settings make. -/
def exportPlan (settings : Settings) (storage : Storage) : Except Fault ExportPlan := do
  let catalogPath ← settings.catalogPath
  let outputPath ← settings.outputPath
  return ⟨catalogPath, outputPath, ← Catalog.load storage catalogPath⟩

/-- What is noted down when a catalog is loaded. -/
def catalogLoaded (plan : ExportPlan) : JournalEntry :=
  .plain .info commandPart
    ("Loaded " ++ countText plan.catalog.courses.length ++ " courses from " ++ plan.catalogPath)

/-- What is noted down about a filter. -/
def filterEntry (f : Filter Element) : JournalEntry :=
  .plain .debug commandPart ("Filter: " ++ f.criterion.source)

/-- Writes the feed of an export, and gives the number of its rows. -/
def writeFeed (session : Session) (plan : ExportPlan) (filters : List (Filter Element))
    (op : Operation) : Session × Except Fault Nat :=
  match FeedFile.create session plan.outputPath true with
  | .error fault => (session, .error fault)
  | .ok (file, w) =>
    let (file, w, written) :=
      plan.catalog.exportTo FeedFile.deliver FeedFile.note file w filters op
    let (file, fault) := w.finish FeedFile.deliver file
    (file.session, written.bind fun n => fault.elim (.ok n) .error)

/-- Carries out a plan, and gives the number of rows. -/
def runPlan (session : Session) (plan : ExportPlan) (settings : Settings) :
    Session × Except Fault Nat :=
  let session := session.note (catalogLoaded plan)
  match Catalog.extractors.compileAll settings.filters with
  | .error fault => (session, .error (.filter fault))
  | .ok filters =>
    let session := (filters.map filterEntry).foldl Session.note session
    writeFeed session plan filters settings.markOperation

/-- What is shown after an export. -/
def exportText (rows : Nat) (path : String) : String :=
  "Exported " ++ countText rows ++ " rows to " ++ path ++ "\n"

/-- Runs an export. -/
def ExportRequest.run (r : ExportRequest) (time : String) (storage : Storage) :
    Storage × Except Fault String :=
  match r.settings storage with
  | .error fault => (storage, .error fault)
  | .ok settings =>
    match openSession storage settings.logFile r.verbose time with
    | .error fault => (storage, .error fault)
    | .ok session =>
      match exportPlan settings session.storage with
      | .error fault => (session.storage, .error fault)
      | .ok plan =>
        let (session, written) := runPlan session plan settings
        (session.storage, written.map fun rows => exportText rows plan.outputPath)

/-! ## Reconciling -/

/-- What is noted down about a change in a verbose run. -/
def changeEntry (options : DiffOptions) (c : Change) : JournalEntry where
  level := .info
  part := commandPart
  message := c.kind.name
  values := [("key", c.key.text), ("rollover", Value.boolName options.rollover)]

/-- What is shown after reconciling. -/
def diffText (old new : String) (s : DiffSummary) : String :=
  "Diff of " ++ old ++ " -> " ++ new ++ ":\n" ++
    "  " ++ countText s.created ++ " created (" ++ countText s.rolledOver ++ " rollover)\n" ++
    "  " ++ countText s.updated ++ " updated\n" ++
    "  " ++ countText s.deleted ++ " deleted\n" ++
    if 0 < s.skipped then "  " ++ countText s.skipped ++ " skipped\n" else ""

/-- Reconciles two feeds. -/
def DiffRequest.run (r : DiffRequest) (time : String) (storage : Storage) :
    Storage × Except Fault String :=
  match openSession storage r.logFile r.verbose time with
  | .error fault => (storage, .error fault)
  | .ok session =>
    let announce := fun c => if r.verbose then [changeEntry r.options c] else []
    let (session, summary) :=
      diffFiles session r.old r.new r.sinks r.options announce Observer.always ()
    (session.storage, summary.map (diffText r.old r.new))

/-! ## Checking filters -/

/-- What is shown about a filter: how its expression is understood. -/
def criterionText (c : Criterion) : String :=
  c.source ++ "\n" ++
    "  extractor:  " ++ (c.extractor.or Catalog.extractors.default?).getD "" ++ "\n" ++
    "  operator:   " ++ c.operator.elim "(default)" Operator.symbol ++ "\n" ++
    "  comparison: " ++ c.comparison.name ++ "\n" ++
    "  value:      " ++ c.value.display ++ "\n" ++
    "  negate:     " ++ Value.boolName c.negate ++ "\n"

/-- What is shown about an expression. -/
def checkText (expression : String) : String :=
  match Catalog.extractors.compile expression with
  | .ok filter => criterionText filter.criterion
  | .error fault => expression ++ "\n  error: " ++ fault.message ++ "\n"

/-- Whether an expression means no filter. -/
def isInvalid (expression : String) : Bool :=
  match Catalog.extractors.compile expression with
  | .ok _ => false
  | .error _ => true

/-! ## All requests -/

/-- What comes of a request: what is shown, and the fault if there was one. -/
structure Report where
  shown : String
  fault : Option Fault
  deriving Repr, DecidableEq

/-- The code with which the program ends after a report. -/
def Report.code (r : Report) : Nat := if r.fault.isSome then 1 else 0

/-- The code with which the program ends when its arguments are misused. -/
def misuseCode : Nat := 2

/-- What is shown about a fault. -/
def faultText (f : Fault) : String := "Error: " ++ f.message ++ "\n"

/-- The report of a run that shows something unless it fails. -/
def Report.ofResult : Except Fault String → Report
  | .ok shown => ⟨shown, none⟩
  | .error fault => ⟨"", some fault⟩

/-- Checks filter expressions. -/
def checkReport (expressions : List String) : Report where
  shown := String.join (expressions.map checkText)
  fault :=
    let invalid := expressions.countP isInvalid
    if 0 < invalid then some (.settings (.invalidFilters invalid)) else none

/-- Does what is asked. -/
def Request.run (time : String) (storage : Storage) : Request → Storage × Report
  | .exportCatalog r =>
    let (storage, result) := r.run time storage
    (storage, .ofResult result)
  | .diff r =>
    let (storage, result) := r.run time storage
    (storage, .ofResult result)
  | .checkFilters expressions => (storage, checkReport expressions)

/-- The paths of the files that a request names, also those that stored settings name. -/
def Request.paths (storage : Storage) : Request → List String
  | .exportCatalog r =>
    let settings := match r.settings storage with
      | .ok settings => settings
      | .error _ => r.overrides
    r.config.toList ++ settings.catalog.toList ++ settings.output.toList ++
      settings.logFile.toList
  | .diff r =>
    [r.old, r.new] ++ r.sinks.create.toList ++ r.sinks.delete.toList ++ r.sinks.update.toList ++
      r.logFile.toList
  | .checkFilters _ => []

end CourseFeed.Command
