import CourseFeed.Proofs.FilterLists
import CourseFeed.Proofs.RolloverRows

/-!
# Inputs first

No file is made, emptied or written before everything that is read was found to be good; only the
journal is opened, and goes on, while that is read.  So where something that is read is missing or
no good, the storage is left as it was but for the journal.

* **`Session.entry?_note`** — noting something down changes nothing but the journal.
* **`diffFiles_of_unread`** — a pass one of whose feeds cannot be read ends before any sink is
  opened.
* **`Fault.OfInputs`** — the faults of what an export reads; writing a feed has none of these,
  wherever it is delivered to (**`Catalog.not_ofInputs_exportTo`**,
  **`Command.not_ofInputs_writeFeed`**).
* **`ExportRequest.Goes`** — how an export goes, by the stage at which it ends (**`goes_run`**).
  It has a fault of its inputs just if one of these is no good (**`fault_ofInputs_iff`**).
* **`inputs_before_outputs`** — what is left as it was.
-/

namespace CourseFeed

open CourseFeed.Feed

/-! ## Reconciling -/

/-- **Noting something down changes nothing but the journal.** -/
theorem Session.entry?_note (s : Session) (entry : JournalEntry) {location : Location}
    (h : ¬ s.IsJournal location) :
    Storage.entry? (s.note entry).storage location = s.storage.entry? location := by
  rcases s.note_cases entry with hsame | ⟨journal, hmine, content, hnote⟩
  · rw [hsame]
  · rw [hnote]
    refine s.storage.entry?_put_of_ne ?_ _
    rintro rfl
    exact h ⟨journal, hmine, rfl⟩

/-- The first feed cannot be read, or the second one cannot once the first was. -/
def Unread (s : Session) (old new : String) (fault : Fault) : Prop :=
  readRows s.storage old = .error fault ∨
    ∃ s₁ keyed, loadKeyed s old = (s₁, .ok keyed) ∧ readRows s₁.storage new = .error fault

/-- **A pass one of whose feeds cannot be read** ends with the fault of that feed, and before it
    opens any sink. -/
theorem diffFiles_of_unread {σ : Type} {s : Session} {old new : String} {fault : Fault}
    (h : Unread s old new fault) (sinks : DiffSinks) (options : DiffOptions)
    (announce : Change → List JournalEntry) (observer : Observer σ) (state : σ) :
    ∃ s', diffFiles s old new sinks options announce observer state = (s', .error fault) ∧
      (s.journal = none → s' = s) ∧
      ∀ location, ¬ s.IsJournal location →
        s'.storage.entry? location = s.storage.entry? location := by
  rcases h with hold | ⟨s₁, keyed, hold, hnew⟩
  · refine ⟨s, ?_, fun _ => rfl, fun _ _ => rfl⟩
    simp only [diffFiles, loadKeyed, hold]
  · refine ⟨s₁, ?_, ?_, ?_⟩
    · simp only [diffFiles, hold]
      simp only [loadKeyed, hnew]
    all_goals
      -- the old feed was read, which may be noted down
      rcases loadKeyed_cases s old with ⟨fault, hfault⟩ | ⟨rows, entry, -, hload⟩
      · cases hold.symm.trans hfault
      obtain ⟨rfl, -⟩ := Prod.mk.inj (hold.symm.trans hload)
    · intro hnone
      rw [Session.note, hnone]
    · intro location hnot
      exact s.entry?_note entry hnot

/-! ## Faults of writing -/

/-- Something that an export reads is missing or no good: its settings, its catalog, or a filter. -/
def Fault.OfInputs : Fault → Prop
  | .unreadable _ _ => True
  | .json _ => True
  | .settings _ => True
  | .filter _ => True
  | _ => False

section

variable {ω : Type} {deliver : Deliver ω} {world world' : ω} {fault : Fault}

theorem Feed.Buffer.not_ofInputs_write {b b' : Buffer} {bytes : List UInt8}
    (h : b.write deliver world bytes = (world', b', some fault)) : ¬ fault.OfInputs := by
  have hrefused : (b.write deliver world bytes).2.2 = some fault := by rw [h]
  obtain ⟨refusal, -, rfl⟩ := Option.map_eq_some_iff.mp hrefused
  exact id

theorem Feed.Buffer.not_ofInputs_finish {b : Buffer}
    (h : b.finish deliver world = (world', some fault)) : ¬ fault.OfInputs := by
  rw [Buffer.finish] at h
  by_cases hempty : b.pending.isEmpty = true
  · rw [if_pos hempty] at h
    cases h
  · rw [if_neg hempty] at h
    cases hdeliver : deliver world b.pending with
    | ok after =>
        simp only [hdeliver] at h
        cases h
    | error refusal =>
        simp only [hdeliver] at h
        cases h
        exact id

namespace Feed.Writer

theorem not_ofInputs_writeUncounted {w w' : Writer} {r : Row}
    (h : w.writeUncounted deliver world r = (world', w', some fault)) : ¬ fault.OfInputs := by
  rcases hwrite : w.buffer.write deliver world (rowBytes r) with ⟨after, b, refused⟩
  simp only [writeUncounted, hwrite] at h
  cases h
  exact Buffer.not_ofInputs_write hwrite

theorem not_ofInputs_writeMarked {w w' : Writer} {r : Row} {op : Operation}
    (h : w.writeMarked deliver world r op = (world', w', some fault)) : ¬ fault.OfInputs := by
  rw [writeMarked, write] at h
  rcases hwrite : w.writeUncounted deliver world (r.mark op) with ⟨after, w₁, _ | refusal⟩
  · simp only [hwrite] at h
    cases h
  · simp only [hwrite] at h
    cases h
    exact not_ofInputs_writeUncounted hwrite

/-- Rows are written up to the first fault. -/
theorem not_ofInputs_writeAll {op : Operation} {w w' : Writer} {rows : List Row}
    (h : writeAll deliver op world w rows = (world', w', some fault)) : ¬ fault.OfInputs := by
  induction rows generalizing world w with
  | nil => cases h
  | cons r rest ih =>
      rw [writeAll] at h
      rcases hwrite : w.writeMarked deliver world r op with ⟨after, w₁, _ | refusal⟩
      · simp only [hwrite] at h
        exact ih h
      · simp only [hwrite] at h
        cases h
        exact not_ofInputs_writeMarked hwrite

end Feed.Writer

/-- **An export has no fault of its inputs from writing**, wherever its feed is delivered to. -/
theorem Catalog.not_ofInputs_exportTo {note : ω → JournalEntry → ω} {w w' : Writer} {c : Catalog}
    {filters : List (Filter Element)} {op : Operation}
    (h : c.exportTo deliver note world w filters op = (world', w', .error fault)) :
    ¬ fault.OfInputs := by
  rw [exportTo] at h
  rcases hwrite : w.writeAll deliver op ((c.readingEntries filters 0 c.years).foldl note world)
    (c.rows filters) with ⟨after, w₁, _ | refusal⟩
  · simp only [hwrite] at h
    cases h
  · simp only [hwrite] at h
    cases h
    exact Writer.not_ofInputs_writeAll hwrite

end

theorem Session.not_ofInputs_create {s : Session} {path : String} {fault : Fault}
    (h : s.create path = .error fault) : ¬ fault.OfInputs := by
  rw [Session.create] at h
  cases hstored : s.storage.create path with
  | error refusal =>
      simp only [hstored] at h
      cases h
      exact id
  | ok made =>
      simp only [hstored] at h
      cases h

theorem Feed.FeedFile.not_ofInputs_create {s : Session} {path : String} {withNames : Bool}
    {fault : Fault} (h : FeedFile.create s path withNames = .error fault) : ¬ fault.OfInputs := by
  rcases bind_eq_error_iff.mp h with hcreate | ⟨⟨session, handle⟩, -, hnames⟩
  · exact Session.not_ofInputs_create hcreate
  · cases withNames with
    | false => cases hnames
    | true =>
        rcases hwrite : (Writer.start path).writeUncounted deliver ⟨session, handle⟩ Row.header
          with ⟨file, w, _ | refusal⟩
        · simp only [hwrite] at hnames
          cases hnames
        · simp only [hwrite] at hnames
          cases hnames
          exact Writer.not_ofInputs_writeUncounted hwrite

namespace Command

/-- **Writing the feed of an export has no fault of the inputs.** -/
theorem not_ofInputs_writeFeed {session after : Session} {plan : ExportPlan}
    {filters : List (Filter Element)} {op : Operation} {fault : Fault}
    (h : writeFeed session plan filters op = (after, .error fault)) : ¬ fault.OfInputs := by
  rw [writeFeed] at h
  cases hcreate : FeedFile.create session plan.outputPath true with
  | error refusal =>
      simp only [hcreate] at h
      cases h
      exact FeedFile.not_ofInputs_create hcreate
  | ok made =>
      obtain ⟨file, w⟩ := made
      rcases hexport : plan.catalog.exportTo FeedFile.deliver FeedFile.note file w filters op with
        ⟨file', w', _ | n⟩
      · simp only [hcreate, hexport] at h
        cases h
        exact Catalog.not_ofInputs_exportTo hexport
      · rcases hfinish : w'.finish FeedFile.deliver file' with ⟨file'', _ | refusal⟩
        · simp only [hcreate, hexport, hfinish] at h
          cases h
        · simp only [hcreate, hexport, hfinish] at h
          cases h
          exact Buffer.not_ofInputs_finish hfinish

end Command

/-! ## Faults of reading -/

section

variable {storage : Storage} {path : String} {fault : Fault}

/-- A stored document that cannot be read is missing or malformed. -/
theorem ofInputs_of_document {α : Type} {parse : String → Except Json.Error α}
    (h : (match storage.readText path with
      | .error unread => Except.error (Fault.unreadable path unread)
      | .ok text => (parse text).mapError Fault.json) = .error fault) : fault.OfInputs := by
  cases htext : storage.readText path with
  | error unread =>
      simp only [htext] at h
      cases h
      trivial
  | ok text =>
      simp only [htext] at h
      cases hparse : parse text with
      | error malformed =>
          rw [hparse] at h
          cases h
          trivial
      | ok document =>
          rw [hparse] at h
          exact nomatch h

theorem Settings.ofInputs_load (h : Settings.load storage path = .error fault) : fault.OfInputs :=
  ofInputs_of_document h

theorem Catalog.ofInputs_load (h : Catalog.load storage path = .error fault) : fault.OfInputs :=
  ofInputs_of_document h

end

namespace Command

/-- There is no plan for an export because of an input. -/
theorem ofInputs_exportPlan {settings : Settings} {storage : Storage} {fault : Fault}
    (h : exportPlan settings storage = .error fault) : fault.OfInputs := by
  -- the catalog and the output have to be set, and the catalog is read
  rcases bind_eq_error_iff.mp h with hcatalog | ⟨catalogPath, -, h⟩
  · rw [Settings.catalogPath] at hcatalog
    cases hpath : settings.catalog with
    | some path =>
        rw [hpath] at hcatalog
        exact nomatch hcatalog
    | none =>
        rw [hpath] at hcatalog
        cases hcatalog
        trivial
  · rcases bind_eq_error_iff.mp h with houtput | ⟨outputPath, -, h⟩
    · rw [Settings.outputPath] at houtput
      cases hpath : settings.output with
      | some path =>
          rw [hpath] at houtput
          exact nomatch houtput
      | none =>
          rw [hpath] at houtput
          cases houtput
          trivial
    · rcases bind_eq_error_iff.mp h with hload | ⟨catalog, -, hpure⟩
      · exact Catalog.ofInputs_load hload
      · exact nomatch hpure

/-- The settings of an export cannot be read because of an input. -/
theorem ofInputs_settings {r : ExportRequest} {storage : Storage} {fault : Fault}
    (h : r.settings storage = .error fault) : fault.OfInputs := by
  rw [ExportRequest.settings] at h
  cases hconfig : r.config with
  | none =>
      rw [hconfig] at h
      exact nomatch h
  | some path =>
      rw [hconfig] at h
      rcases bind_eq_error_iff.mp h with hload | ⟨stored, -, hpure⟩
      · exact Settings.ofInputs_load hload
      · exact nomatch hpure

theorem not_ofInputs_openSession {storage : Storage} {logFile : Option String} {verbose : Bool}
    {time : String} {fault : Fault}
    (h : openSession storage logFile verbose time = .error fault) : ¬ fault.OfInputs := by
  cases logFile with
  | none => cases h
  | some path =>
      rw [openSession] at h
      cases hensure : storage.ensure path with
      | error refusal =>
          simp only [hensure] at h
          cases h
          exact id
      | ok made =>
          simp only [hensure] at h
          cases h

/-- The journal of a session that was opened is where its path leads. -/
theorem place?_of_isJournal {storage : Storage} {logFile : Option String} {verbose : Bool}
    {time : String} {session : Session} {location : Location}
    (h : openSession storage logFile verbose time = .ok session)
    (hjournal : session.IsJournal location) :
    ∃ path, logFile = some path ∧ storage.place? path = some location := by
  obtain ⟨journal, hmine, rfl⟩ := hjournal
  cases logFile with
  | none =>
      obtain rfl := Except.ok.inj h
      cases hmine
  | some path =>
      rw [openSession] at h
      cases hensure : storage.ensure path with
      | error refusal =>
          simp only [hensure] at h
          cases h
      | ok made =>
          simp only [hensure] at h
          obtain rfl := Except.ok.inj h
          obtain rfl := Option.some.inj hmine
          obtain ⟨⟨location, content⟩, hopen, hmade⟩ := bind_eq_ok_iff.mp hensure
          obtain rfl := Except.ok.inj hmade
          obtain ⟨hlocate, -⟩ := Storage.of_openForWriting hopen
          exact ⟨path, rfl, Storage.place?_of_locate hlocate⟩

/-! ## Exports by the stage at which they end -/

namespace ExportRequest

variable {r : ExportRequest} {time : String} {storage : Storage} {fault : Fault}

/-- How an export goes: it ends where its settings cannot be read, its journal cannot be opened,
    there is no plan or a filter is no good, or else it writes its feed. -/
inductive Goes (r : ExportRequest) (time : String) (storage : Storage) :
    Storage × Except Fault String → Prop where
  | settings {fault : Fault} (h : r.settings storage = .error fault) :
      Goes r time storage (storage, .error fault)
  | session {settings : Settings} {fault : Fault} (hsettings : r.settings storage = .ok settings)
      (h : openSession storage settings.logFile r.verbose time = .error fault) :
      Goes r time storage (storage, .error fault)
  | plan {settings : Settings} {session : Session} {fault : Fault}
      (hsettings : r.settings storage = .ok settings)
      (hsession : openSession storage settings.logFile r.verbose time = .ok session)
      (h : exportPlan settings session.storage = .error fault) :
      Goes r time storage (session.storage, .error fault)
  | filter {settings : Settings} {session : Session} {plan : ExportPlan} {error : FilterError}
      (hsettings : r.settings storage = .ok settings)
      (hsession : openSession storage settings.logFile r.verbose time = .ok session)
      (hplan : exportPlan settings session.storage = .ok plan)
      (h : Catalog.extractors.compileAll settings.filters = .error error) :
      Goes r time storage ((session.note (catalogLoaded plan)).storage, .error (.filter error))
  | feed {settings : Settings} {session noted after : Session} {plan : ExportPlan}
      {filters : List (Filter Element)} {written : Except Fault Nat}
      (hsettings : r.settings storage = .ok settings)
      (hsession : openSession storage settings.logFile r.verbose time = .ok session)
      (hplan : exportPlan settings session.storage = .ok plan)
      (hfilters : Catalog.extractors.compileAll settings.filters = .ok filters)
      (h : writeFeed noted plan filters settings.markOperation = (after, written)) :
      Goes r time storage
        (after.storage, written.map fun rows => exportText rows plan.outputPath)

/-- **An export goes in one of these ways.** -/
theorem goes_run (r : ExportRequest) (time : String) (storage : Storage) :
    r.Goes time storage (r.run time storage) := by
  cases hsettings : r.settings storage with
  | error fault =>
      simp only [run, hsettings]
      exact .settings hsettings
  | ok settings =>
      cases hsession : openSession storage settings.logFile r.verbose time with
      | error fault =>
          simp only [run, hsettings, hsession]
          exact .session hsettings hsession
      | ok session =>
          cases hplan : exportPlan settings session.storage with
          | error fault =>
              simp only [run, hsettings, hsession, hplan]
              exact .plan hsettings hsession hplan
          | ok plan =>
              cases hfilters : Catalog.extractors.compileAll settings.filters with
              | error error =>
                  simp only [run, hsettings, hsession, hplan, runPlan, hfilters]
                  exact .filter hsettings hsession hplan hfilters
              | ok filters =>
                  simp only [run, hsettings, hsession, hplan, runPlan, hfilters]
                  exact .feed hsettings hsession hplan hfilters rfl

/-- Something that an export reads is missing or no good: its settings cannot be read; or, once its
    journal is open, no catalog or no output is set or the catalog cannot be read; or one of its
    filters, stored in the settings or asked for, is none. -/
def BadInputs (r : ExportRequest) (time : String) (storage : Storage) : Prop :=
  (∃ fault, r.settings storage = .error fault) ∨
    ∃ settings session, r.settings storage = .ok settings ∧
      openSession storage settings.logFile r.verbose time = .ok session ∧
      ((∃ fault, exportPlan settings session.storage = .error fault) ∨
        ∃ expression ∈ settings.filters, ∃ error,
          Catalog.extractors.compile expression = .error error)

/-- A location is that of the journal that the settings of an export ask for. -/
def IsLog (r : ExportRequest) (storage : Storage) (location : Location) : Prop :=
  ∃ settings path, r.settings storage = .ok settings ∧ settings.logFile = some path ∧
    storage.place? path = some location

/-- **An export has a fault of its inputs just if one of them is no good.** -/
theorem fault_ofInputs_iff (r : ExportRequest) (time : String) (storage : Storage) :
    (∃ fault, (r.run time storage).2 = .error fault ∧ fault.OfInputs) ↔
      r.BadInputs time storage := by
  constructor
  · rintro ⟨fault, hrun, hfault⟩
    have hgoes := r.goes_run time storage
    generalize r.run time storage = result at hgoes hrun
    cases hgoes with
    | settings h => exact Or.inl ⟨_, h⟩
    | session hsettings h =>
        obtain rfl := Except.error.inj hrun
        exact absurd hfault (not_ofInputs_openSession h)
    | plan hsettings hsession h => exact Or.inr ⟨_, _, hsettings, hsession, Or.inl ⟨_, h⟩⟩
    | filter hsettings hsession hplan h =>
        have hbad := Extractors.compileAll_fails_iff.mp ⟨_, h⟩
        exact Or.inr ⟨_, _, hsettings, hsession, Or.inr hbad⟩
    | feed hsettings hsession hplan hfilters h =>
        obtain rfl := map_eq_error_iff.mp hrun
        exact absurd hfault (not_ofInputs_writeFeed h)
  · rintro (⟨fault, hsettings⟩ | ⟨settings, session, hsettings, hsession, hbad⟩)
    · refine ⟨fault, ?_, ofInputs_settings hsettings⟩
      simp only [run, hsettings]
    · cases hplan : exportPlan settings session.storage with
      | error fault =>
          refine ⟨fault, ?_, ofInputs_exportPlan hplan⟩
          simp only [run, hsettings, hsession, hplan]
      | ok plan =>
          rcases hbad with ⟨fault, hfault⟩ | hbad
          · exact nomatch hplan.symm.trans hfault
          · obtain ⟨error, herror⟩ := Extractors.compileAll_fails_iff.mpr hbad
            refine ⟨.filter error, ?_, trivial⟩
            simp only [run, hsettings, hsession, hplan, runPlan, herror]
            rfl

/-- **An export with a fault of its inputs leaves everything but its journal as it was.** -/
theorem entry?_run_of_ofInputs (r : ExportRequest) (time : String) (storage : Storage)
    {fault : Fault} (hrun : (r.run time storage).2 = .error fault) (hfault : fault.OfInputs)
    {location : Location} (hlog : ¬ r.IsLog storage location) :
    Storage.entry? (r.run time storage).1 location = storage.entry? location := by
  have hjournal : ∀ settings session, r.settings storage = .ok settings →
      openSession storage settings.logFile r.verbose time = .ok session →
      ¬ session.IsJournal location := by
    intro settings session hsettings hsession hmine
    obtain ⟨path, hpath, hplace⟩ := place?_of_isJournal hsession hmine
    exact hlog ⟨settings, path, hsettings, hpath, hplace⟩
  have hgoes := r.goes_run time storage
  generalize r.run time storage = result at hgoes hrun
  cases hgoes with
  | settings h => rfl
  | session hsettings h => rfl
  | plan hsettings hsession h =>
      exact (of_openSession hsession).2 location (hjournal _ _ hsettings hsession)
  | filter hsettings hsession hplan h =>
      have hnot := hjournal _ _ hsettings hsession
      exact (Session.entry?_note _ _ hnot).trans ((of_openSession hsession).2 location hnot)
  | feed hsettings hsession hplan hfilters h =>
      obtain rfl := map_eq_error_iff.mp hrun
      exact absurd hfault (not_ofInputs_writeFeed h)

end ExportRequest

end Command

/-- **Nothing is written before the inputs are known to be good.**  A pass one of whose feeds cannot
    be read, is no text or has a row that is too wide ends with that fault and leaves every file as
    it was, whatever its sinks are; only the journal, if one is kept, has gone on.  An export fails
    for its settings, its catalog or a filter just if one of these is missing or no good, and then
    every file but its journal is as it was. -/
theorem inputs_before_outputs :
    (∀ {σ : Type} (s : Session) (old new : String) (fault : Fault), Unread s old new fault →
      ∀ (sinks : DiffSinks) (options : DiffOptions) (announce : Change → List JournalEntry)
        (observer : Observer σ) (state : σ),
      ∃ s', diffFiles s old new sinks options announce observer state = (s', .error fault) ∧
        (s.journal = none → s' = s) ∧
        ∀ location, ¬ s.IsJournal location →
          s'.storage.entry? location = s.storage.entry? location) ∧
    ∀ (r : Command.ExportRequest) (time : String) (storage : Storage),
      ((∃ fault, (r.run time storage).2 = .error fault ∧ fault.OfInputs) ↔
        r.BadInputs time storage) ∧
      ∀ fault, (r.run time storage).2 = .error fault → fault.OfInputs →
        ∀ location, ¬ r.IsLog storage location →
          Storage.entry? (r.run time storage).1 location = storage.entry? location := by
  constructor
  · intro σ s old new fault hunread sinks options announce observer state
    exact diffFiles_of_unread hunread sinks options announce observer state
  · intro r time storage
    refine ⟨r.fault_ofInputs_iff time storage, ?_⟩
    intro fault hrun hfault location hlog
    exact r.entry?_run_of_ofInputs time storage hrun hfault hlog

/-- There is no feed to reconcile and no catalog to export, and the file to be written stays. -/
theorem inputs_before_outputs_nothing_read :
    let storage : Storage := ⟨[], [(["out.tsv"], .file [0x41])]⟩
    let s : Session := ⟨storage, none⟩
    let r : Command.ExportRequest := ⟨none, { output := some "out.tsv" }, false⟩
    let observer : Observer Unit := Observer.always
    (∃ fault, diffFiles s "old.tsv" "new.tsv" ⟨some "out.tsv", none, none⟩ ⟨false⟩ (fun _ => [])
      observer () = (s, .error fault)) ∧
    ∃ fault, (r.run "" storage).2 = .error fault ∧ fault.OfInputs ∧
      Storage.entry? (r.run "" storage).1 ["out.tsv"] = some (.file [0x41]) := by
  intro storage s r observer
  constructor
  · have hunread : Unread s "old.tsv" "new.tsv" (.unreadable "old.tsv" .notFound) := Or.inl rfl
    obtain ⟨s', hrun, hsame, -⟩ := inputs_before_outputs.1 s "old.tsv" "new.tsv" _ hunread
      ⟨some "out.tsv", none, none⟩ ⟨false⟩ (fun _ => []) observer ()
    rw [hsame rfl] at hrun
    exact ⟨_, hrun⟩
  · obtain ⟨hfails, hkept⟩ := inputs_before_outputs.2 r "" storage
    have hbad : r.BadInputs "" storage := Or.inr ⟨_, _, rfl, rfl, Or.inl ⟨_, rfl⟩⟩
    obtain ⟨fault, hrun, hfault⟩ := hfails.mpr hbad
    refine ⟨fault, hrun, hfault, hkept fault hrun hfault ["out.tsv"] ?_⟩
    rintro ⟨settings, path, hsettings, hlog, -⟩
    obtain rfl := Except.ok.inj hsettings
    exact nomatch hlog

end CourseFeed
