import CourseFeed.Proofs.ChangeList
import CourseFeed.Proofs.FileSinks
import CourseFeed.Proofs.WrittenFeeds

/-!
# Feeds of changes read back

The files that a pass writes have no names of columns in front, so a reader might take a first row
for these, or an order mark off it.  Neither happens to the row of a change: it is marked with an
operation, which the names of the columns are not, and its course code is one that was read.

* **`Row.mark_ne_header`** and **`Row.Plain.mark`** — a marked row is not that of the names, and as
  plain as the row was.
* **`readable_consult`** — so what a pass tells of feeds that were read can be read back
  (**`rowsOfBytes_linesTo`**).
* **`diffFiles_cases`** — how a pass on files goes, whatever can be read and opened.
* **`diffFiles_eq`** — once both feeds are read, a pass opens its sinks and runs, and
  **`runOnFiles_spec`**: that leaves in each sink the lines of the changes told.
* **`readRows_diffFiles`** — what is read back from the sinks of a pass on files.
-/

namespace CourseFeed

open CourseFeed.Feed CourseFeed.Text

/-! ## Marked rows -/

namespace Row

theorem Plain.set {r : Row} (h : r.Plain) (column : Nat) {text : String}
    (htext : PlainText text.toList) : (r.set column text).Plain := by
  intro cell hcell
  rcases List.mem_or_eq_of_mem_set hcell with hmem | rfl
  · exact h cell hmem
  · exact htext

/-- The codes of operations are plain, and so is a marked row. -/
theorem Plain.mark {r : Row} (h : r.Plain) (op : Operation) : (r.mark op).Plain := by
  have hset : (r.set Column.operation op.code).Plain := h.set _ (by cases op <;> decide)
  by_cases hop : op = .rollover
  · rw [Row.mark, if_pos hop]
    exact hset
  · rw [Row.mark, if_neg hop]
    exact (hset.set _ (by decide)).set _ (by decide)

/-- A marked row is not that of the names of the columns, which has no operation. -/
theorem mark_ne_header {r : Row} (h : r.Full) (op : Operation) : r.mark op ≠ header := by
  intro hheader
  have hcode := operationCode_mark h op
  rw [hheader] at hcode
  cases op <;> exact absurd hcode (by decide)

end Row

/-! ## What is told -/

/-- A row that a reader takes for nothing else, wherever it stands in a feed. -/
structure Row.Readable (r : Row) : Prop where
  full : r.Full
  plain : r.Plain
  ne_header : r ≠ Row.header
  no_mark : ¬ r.HasOrderMark

/-- A change is told by a row as plain as the one that was read. -/
theorem Change.plain_format {c : Change} (h : c.told.Plain) (options : DiffOptions) :
    (c.format options).Plain := by
  obtain ⟨op, hop⟩ := c.format_eq_mark options
  rw [hop]
  exact h.mark op

/-- The row of a change is readable, if the row that it is told by was read without a mark. -/
theorem Change.readable_format {c : Change} (hfull : c.told.Full) (hplain : c.told.Plain)
    (hmark : ¬ c.told.HasOrderMark) (options : DiffOptions) : (c.format options).Readable := by
  obtain ⟨op, hop⟩ := c.format_eq_mark options
  have hcode : (c.format options).courseCode = c.told.courseCode :=
    c.get_format_of_lt options (by decide)
  refine ⟨c.full_format options hfull, Change.plain_format hplain options, ?_, ?_⟩
  · rw [hop]
    exact Row.mark_ne_header hfull op
  · rw [Row.HasOrderMark, hcode]
    exact hmark

theorem openEntry_of_readRows {s : Storage} {path : String} {rows : List Row}
    (h : readRows s path = .ok rows) :
    ∃ content, s.openEntry path = .ok (.file content) ∧ rowsOfBytes path content = .ok rows := by
  cases hopen : s.openEntry path with
  | error fault =>
      rw [readRows, hopen] at h
      cases h
  | ok entry =>
      cases entry with
      | directory =>
          rw [readRows, hopen] at h
          cases h
      | file content => exact ⟨content, rfl, (readRows_of_openEntry hopen).symm.trans h⟩

/-- Rows that are read have a cell for each column, and no tab or line end in any. -/
theorem full_plain_of_readRows {s : Storage} {path : String} {rows : List Row}
    (h : readRows s path = .ok rows) : ∀ r ∈ rows, r.Full ∧ r.Plain := by
  obtain ⟨content, -, hcontent⟩ := openEntry_of_readRows h
  exact fun r hr => ⟨full_of_rowsOfBytes hcontent r hr, plain_of_rowsOfBytes hcontent r hr⟩

theorem full_plain_of_readRows_append {s s' : Storage} {path path' : String} {rows rows' : List Row}
    (h : readRows s path = .ok rows) (h' : readRows s' path' = .ok rows') :
    ∀ r ∈ rows ++ rows', r.Full ∧ r.Plain := by
  intro r hr
  rcases List.mem_append.mp hr with hmem | hmem
  · exact full_plain_of_readRows h r hmem
  · exact full_plain_of_readRows h' r hmem

/-- A call tells a change by a row that was read. -/
theorem told_mem_of_mem_consult {σ : Type} {olds news : List Row} {observer : Observer σ}
    {options : DiffOptions} {state : σ} {call : Consultation}
    (h : call ∈ (consult observer options state
      (changes (Keyed.ofRows olds) (Keyed.ofRows news))).2) : call.change.told ∈ olds ++ news := by
  have hchange := (consulted_consult observer options state _).mem_changes h
  rcases told_mem_of_mem_changes hchange with hmem | hmem
  · exact List.mem_append_left _ (Keyed.mem_of_mem_rows_ofRows hmem)
  · exact List.mem_append_right _ (Keyed.mem_of_mem_rows_ofRows hmem)

/-- **What a pass tells of rows that were read can be read back.** -/
theorem readable_consult {σ : Type} {olds news : List Row}
    (hread : ∀ r ∈ olds ++ news, r.Full ∧ r.Plain)
    (hmark : ∀ r ∈ olds ++ news, ¬ r.HasOrderMark) (observer : Observer σ)
    (options : DiffOptions) (state : σ) :
    ∀ call ∈ (consult observer options state
      (changes (Keyed.ofRows olds) (Keyed.ofRows news))).2, call.row.Readable := by
  intro call hcall
  have htold := told_mem_of_mem_consult hcall
  obtain ⟨hfull, hplain⟩ := hread _ htold
  exact Change.readable_format hfull hplain (hmark _ htold) call.options

/-- **The lines of readable rows are read as these rows.** -/
theorem rowsOfBytes_of_readable {rows : List Row} (h : ∀ r ∈ rows, r.Readable) (path : String) :
    rowsOfBytes path (rows.flatMap rowBytes) = .ok rows := by
  have hfull : ∀ r ∈ rows, r.Full := fun r hr => (h r hr).full
  have hplain : ∀ r ∈ rows, r.Plain := fun r hr => (h r hr).plain
  rw [rowsOfBytes_rowBytes hfull, rowsOfText_lines_iff hfull hplain]
  intro first hfirst
  have hreadable := h first (List.mem_of_mem_head? hfirst)
  exact ⟨hreadable.ne_header, hreadable.no_mark⟩

/-- So the lines of calls are read as the rows that these tell. -/
theorem rowsOfBytes_linesTo {calls : List Consultation} (h : ∀ call ∈ calls, call.row.Readable)
    (kind : ChangeKind) (path : String) :
    rowsOfBytes path (linesTo kind calls) =
      .ok ((calls.filter (Consultation.tells kind)).map Consultation.row) := by
  have hrows : ∀ r ∈ (calls.filter (Consultation.tells kind)).map Consultation.row,
      r.Readable := by
    intro r hr
    obtain ⟨call, hcall, rfl⟩ := List.mem_map.mp hr
    exact h call (List.mem_filter.mp hcall).1
  rw [linesTo_eq_flatMap]
  exact rowsOfBytes_of_readable hrows path

/-! ## Passes on files -/

theorem loadKeyed_eq {s : Session} {path : String} {rows : List Row}
    (h : readRows s.storage path = .ok rows) :
    ∃ entry, loadKeyed s path = (s.note entry, .ok (Keyed.ofRows rows)) := by
  rw [loadKeyed, h]
  exact ⟨_, rfl⟩

theorem loadKeyed_cases (s : Session) (path : String) :
    (∃ fault, loadKeyed s path = (s, .error fault)) ∨
      ∃ rows entry, readRows s.storage path = .ok rows ∧
        loadKeyed s path = (s.note entry, .ok (Keyed.ofRows rows)) := by
  cases hread : readRows s.storage path with
  | error fault =>
      rw [loadKeyed, hread]
      exact Or.inl ⟨fault, rfl⟩
  | ok rows =>
      obtain ⟨entry, hload⟩ := loadKeyed_eq hread
      exact Or.inr ⟨rows, entry, rfl, hload⟩

/-- **How a pass on files goes**: one of the feeds cannot be read, and nothing happens but that
    reading the other one is noted down; or both are read, and then the sinks are opened, and the
    pass runs if all of them can be. -/
theorem diffFiles_cases {σ : Type} (s : Session) (old new : String) (sinks : DiffSinks)
    (options : DiffOptions) (announce : Change → List JournalEntry) (observer : Observer σ)
    (state : σ) :
    (∃ fault, diffFiles s old new sinks options announce observer state = (s, .error fault)) ∨
    (∃ entry fault, diffFiles s old new sinks options announce observer state =
      (s.note entry, .error fault)) ∨
    ∃ olds news entry entry',
      readRows s.storage old = .ok olds ∧ readRows (s.note entry).storage new = .ok news ∧
      loadKeyed s old = (s.note entry, .ok (Keyed.ofRows olds)) ∧
      loadKeyed (s.note entry) new = ((s.note entry).note entry', .ok (Keyed.ofRows news)) ∧
      ((∃ s₁ fault,
          openSinks sinks ((s.note entry).note entry') .none .none ChangeKind.all =
            (s₁, .error fault) ∧
          diffFiles s old new sinks options announce observer state = (s₁, .error fault)) ∨
        ∃ s₁ handles,
          openSinks sinks ((s.note entry).note entry') .none .none ChangeKind.all =
            (s₁, .ok (handles, .opened sinks)) ∧
          diffFiles s old new sinks options announce observer state =
            runOnFiles (fileStage options announce observer) options (Keyed.ofRows olds)
              (Keyed.ofRows news) ⟨state, s₁, handles⟩ (.opened sinks)) := by
  rcases loadKeyed_cases s old with ⟨fault, hold⟩ | ⟨olds, entry, hreadOld, hold⟩
  · refine Or.inl ⟨fault, ?_⟩
    simp only [diffFiles, hold]
  · rcases loadKeyed_cases (s.note entry) new with ⟨fault, hnew⟩ | ⟨news, entry', hreadNew, hnew⟩
    · refine Or.inr (Or.inl ⟨entry, fault, ?_⟩)
      simp only [diffFiles, hold, hnew]
    · refine Or.inr (Or.inr ⟨olds, news, entry, entry', hreadOld, hreadNew, hold, hnew, ?_⟩)
      obtain ⟨s₁, opened, hopened⟩ : ∃ s₁ opened,
          openSinks sinks ((s.note entry).note entry') .none .none ChangeKind.all =
            (s₁, opened) := ⟨_, _, rfl⟩
      cases opened with
      | error fault =>
          refine Or.inl ⟨s₁, fault, hopened, ?_⟩
          simp only [diffFiles, hold, hnew, hopened]
      | ok made =>
          obtain ⟨handles, outputs⟩ := made
          obtain rfl := outputs_openSinks_all hopened
          refine Or.inr ⟨s₁, handles, hopened, ?_⟩
          simp only [diffFiles, hold, hnew, hopened]

section

variable {σ : Type} {s : Session} {old new : String} {olds news : List Row} {sinks : DiffSinks}

/-- Where both feeds can be read, a pass opens its sinks and runs.  Reading the old feed may be
    noted down, and that leaves the new one as it was. -/
theorem diffFiles_eq (hold : readRows s.storage old = .ok olds)
    (hnew : readRows s.storage new = .ok news)
    (hjournal : ∀ location, s.storage.place? new = some location → s.Apart location)
    (sinks : DiffSinks) (options : DiffOptions) (announce : Change → List JournalEntry)
    (observer : Observer σ) (state : σ) :
    ∃ entry entry',
      Session.ChangedOnly s.IsJournal s ((s.note entry).note entry') ∧
      ∀ s₁ opened,
        openSinks sinks ((s.note entry).note entry') .none .none ChangeKind.all = (s₁, opened) →
        (∀ fault, opened = .error fault →
          diffFiles s old new sinks options announce observer state = (s₁, .error fault)) ∧
        ∀ handles outputs, opened = .ok (handles, outputs) →
          diffFiles s old new sinks options announce observer state =
            runOnFiles (fileStage options announce observer) options (Keyed.ofRows olds)
              (Keyed.ofRows news) ⟨state, s₁, handles⟩ outputs := by
  obtain ⟨content, hopen, hcontent⟩ := openEntry_of_readRows hnew
  obtain ⟨found, hlocate, -⟩ := bind_eq_ok_iff.mp hopen
  have hapart := hjournal found.1 (Storage.place?_of_locate hlocate)
  obtain ⟨entry, hfirst⟩ := loadKeyed_eq hold
  have hstart : Session.ChangedOnly s.IsJournal s s := .refl hapart.stored
  have hchanged := hstart.note (fun _ hmine => hmine) entry
  have hplace : ∀ location, s.storage.place? new = some location → ¬ s.IsJournal location := by
    rintro location hlead ⟨journal, hmine, rfl⟩
    exact (hjournal _ hlead journal hmine).1 rfl
  have hread : readRows (s.note entry).storage new = .ok news := by
    rw [readRows_of_openEntry (hchanged.openEntry_eq hplace hopen), hcontent]
  obtain ⟨entry', hsecond⟩ := loadKeyed_eq hread
  refine ⟨entry, entry', hchanged.note (fun _ hmine => hmine) entry', ?_⟩
  intro s₁ opened hopened
  constructor
  · rintro fault rfl
    simp only [diffFiles, hfirst, hsecond, hopened]
  · rintro handles outputs rfl
    simp only [diffFiles, hfirst, hsecond, hopened]

/-- **A run on open and empty sinks succeeds**, and leaves in each the lines of the changes told. -/
theorem runOnFiles_spec {start : Session} {handles : Handles} (hsinks : sinks.Separate start)
    (hopen : SinksOpen start sinks ChangeKind.all s handles)
    (hempty : ∀ kind, sinkContent start sinks s kind = []) (options : DiffOptions)
    (announce : Change → List JournalEntry) (observer : Observer σ) (state : σ)
    (old new : Keyed) :
    let calls := (consult observer options state (changes old new)).2
    ∃ s' handles',
      runOnFiles (fileStage options announce observer) options old new ⟨state, s, handles⟩
        (.opened sinks) = (s', .ok (calls.foldl DiffSummary.tally .zero)) ∧
      SinksOpen start sinks ChangeKind.all s' handles' ∧
      ∀ kind, sinkContent start sinks s' kind =
        if (sinks.get kind).isSome then linesTo kind calls else [] := by
  intro calls
  obtain ⟨p, world, hrun, hfinish, hready, -, hsum, hheld⟩ :=
    (faithful_files hsinks options announce observer).pass_spec old new ⟨state, s, handles⟩ sinks
      hopen (fun _ hsome => hsome) hempty
  obtain ⟨hopen', hsame⟩ := SinksOpen.note hready hsinks (completion p.summary)
  refine ⟨_, world.handles, ?_, hopen', ?_⟩
  · simp only [runOnFiles, hrun, hfinish, Option.or]
    rw [hsum]
    rfl
  · intro kind
    rw [hsame]
    exact hheld kind

/-- What is read from the path of an open sink is what is in its file. -/
theorem readRows_sink {start : Session} {handles : Handles}
    (hopen : SinksOpen start sinks ChangeKind.all s handles) {kind : ChangeKind} {path : String}
    (hpath : sinks.get kind = some path) :
    readRows s.storage path = rowsOfBytes path (sinkContent start sinks s kind) := by
  obtain ⟨handle, -, hplace, hfile⟩ := hopen.opened kind kind.mem_all path hpath
  rw [SinksOpen.content_eq hplace]
  exact readRows_of_openEntry hfile.openEntry_eq

/-- **A pass whose sinks can be opened succeeds**, and leaves in each the lines of the changes
    told.  Nothing has changed then but the files of the sinks, and that of the journal. -/
theorem diffFiles_of_openSinks (hold : readRows s.storage old = .ok olds)
    (hnew : readRows s.storage new = .ok news)
    (hjournal : ∀ location, s.storage.place? new = some location → s.Apart location)
    (hsinks : sinks.Separate s) (options : DiffOptions) (announce : Change → List JournalEntry)
    (observer : Observer σ) (state : σ) :
    let calls := (consult observer options state
      (changes (Keyed.ofRows olds) (Keyed.ofRows news))).2
    ∃ entry entry', ∀ s₁ opened,
      openSinks sinks ((s.note entry).note entry') .none .none ChangeKind.all = (s₁, opened) →
      (∀ fault, opened = .error fault →
        diffFiles s old new sinks options announce observer state = (s₁, .error fault)) ∧
      ∀ made, opened = .ok made →
        ∃ s' handles',
          diffFiles s old new sinks options announce observer state =
            (s', .ok (calls.foldl DiffSummary.tally .zero)) ∧
          SinksOpen s sinks ChangeKind.all s' handles' ∧
          ∀ kind, sinkContent s sinks s' kind =
            if (sinks.get kind).isSome then linesTo kind calls else [] := by
  intro calls
  obtain ⟨entry, entry', hchanged, hpass⟩ :=
    diffFiles_eq hold hnew hjournal sinks options announce observer state
  refine ⟨entry, entry', ?_⟩
  intro s₁ opened hopened
  obtain ⟨hfault, hrun⟩ := hpass s₁ opened hopened
  refine ⟨hfault, ?_⟩
  rintro ⟨handles, outputs⟩ rfl
  have hnone : SinksOpen s sinks [] _ .none := .of_changed (hchanged.mono fun _ => Or.inr)
  obtain ⟨hopen, hcontent⟩ := hnone.openSinks hsinks (by decide) hopened
  rw [hrun handles outputs rfl, outputs_openSinks_all hopened]
  refine runOnFiles_spec hsinks hopen ?_ options announce observer state _ _
  intro kind
  rw [hcontent, if_pos kind.mem_all]

end

/-- **The sinks of a pass hold the changes it counts.**  Two feeds are read, and a pass on them
    succeeds whose sinks are files of their own; each may be that of a feed that was read.  Then
    each sink is read back as the rows of the changes of its kind that were let through, in order
    and as many as were counted, and no other file has changed but the journal. -/
theorem readRows_diffFiles {σ : Type} {s s' : Session} {old new : String} {olds news : List Row}
    (hold : readRows s.storage old = .ok olds) (hnew : readRows s.storage new = .ok news)
    (hmark : ∀ r ∈ olds ++ news, ¬ r.HasOrderMark) {sinks : DiffSinks}
    (hsinks : sinks.Separate s)
    (hjournal : ∀ location, s.storage.place? new = some location → s.Apart location)
    {options : DiffOptions} {announce : Change → List JournalEntry} {observer : Observer σ}
    {state : σ} {summary : DiffSummary}
    (hrun : diffFiles s old new sinks options announce observer state = (s', .ok summary)) :
    let between := changes (Keyed.ofRows olds) (Keyed.ofRows news)
    let calls := (consult observer options state between).2
    let told := fun kind => (calls.filter (Consultation.tells kind)).map Consultation.row
    Consulted options between calls ∧ summary.Accounts calls ∧
      (∀ kind, summary.told kind = (told kind).length) ∧
      (∀ kind path, sinks.get kind = some path → readRows s'.storage path = .ok (told kind)) ∧
      ∀ location, (∀ kind, sinks.place? s.storage kind ≠ some location) →
        ¬ s.IsJournal location → s'.storage.entry? location = s.storage.entry? location := by
  intro between calls told
  obtain ⟨entry, entry', hpass⟩ :=
    diffFiles_of_openSinks hold hnew hjournal hsinks options announce observer state
  obtain ⟨hfault, hmade⟩ := hpass _ _ rfl
  obtain ⟨made, hopened⟩ : ∃ made,
      (openSinks sinks ((s.note entry).note entry') .none .none ChangeKind.all).2 = .ok made := by
    cases hopened : (openSinks sinks ((s.note entry).note entry') .none .none
        ChangeKind.all).2 with
    | ok made => exact ⟨made, rfl⟩
    | error fault => exact nomatch (Prod.mk.inj (hrun.symm.trans (hfault fault hopened))).2
  obtain ⟨s'', handles', hsame, hopen, hcontent⟩ := hmade made hopened
  obtain ⟨rfl, hsummary⟩ := Prod.mk.inj (hrun.symm.trans hsame)
  have hsummary : summary = calls.foldl DiffSummary.tally .zero := Except.ok.inj hsummary
  have haccounts : summary.Accounts calls := by
    rw [hsummary]
    exact DiffSummary.accounts_zero.foldl_tally calls
  have hreadable : ∀ call ∈ calls, call.row.Readable := by
    refine readable_consult ?_ hmark observer options state
    intro r hr
    rcases List.mem_append.mp hr with hmem | hmem
    · exact full_plain_of_readRows hold r hmem
    · exact full_plain_of_readRows hnew r hmem
  refine ⟨consulted_consult observer options state between, haccounts, ?_, ?_, ?_⟩
  · intro kind
    rw [haccounts.told, List.length_map, List.countP_eq_length_filter]
  · intro kind path hpath
    rw [readRows_sink hopen hpath, hcontent, if_pos (by rw [hpath]; rfl)]
    exact rowsOfBytes_linesTo hreadable kind path
  · intro location hnone hjournal'
    refine hopen.changed.elsewhere location ?_
    rintro (⟨kind, hplace⟩ | hmine)
    · exact hnone kind hplace
    · exact hjournal' hmine

/-- One feed loses a section and gains one, and the sinks are the files of the feeds themselves. -/
theorem readRows_diffFiles_in_place :
    let olds := [Row.about "A" "1", Row.about "B" "1"]
    let news := [Row.about "B" "1", Row.about "C" "1"]
    let s : Session :=
      ⟨⟨[], [(["old.tsv"], .file (feedBytes olds)), (["new.tsv"], .file (feedBytes news))]⟩, none⟩
    let sinks : DiffSinks := ⟨some "new.tsv", some "old.tsv", none⟩
    let observer : Observer Unit := Observer.always
    ∃ s' summary,
      readRows s.storage "old.tsv" = .ok olds ∧ readRows s.storage "new.tsv" = .ok news ∧
      (∀ r ∈ olds ++ news, ¬ r.HasOrderMark) ∧ sinks.Separate s ∧
      diffFiles s "old.tsv" "new.tsv" sinks ⟨false⟩ (fun _ => []) observer () =
        (s', .ok summary) ∧
      ∃ rows, readRows s'.storage "new.tsv" = .ok rows ∧ rows.length = summary.created := by
  intro olds news s sinks observer
  have hread : ∀ {path : String} {rows : List Row},
      s.storage.openEntry path = .ok (.file (feedBytes rows)) → (∀ r ∈ rows, r.Full) →
        (∀ r ∈ rows, r.Plain) → readRows s.storage path = .ok rows := by
    intro path rows hopen hfull hplain
    rw [readRows_of_openEntry hopen]
    exact (rowsOfBytes_iff hfull path).mpr hplain
  have hold : readRows s.storage "old.tsv" = .ok olds := hread rfl (by decide) (by decide)
  have hnew : readRows s.storage "new.tsv" = .ok news := hread rfl (by decide) (by decide)
  have hmark : ∀ r ∈ olds ++ news, ¬ r.HasOrderMark := by decide
  have hjournal : ∀ location, s.Apart location := by
    intro location journal hmine
    exact nomatch hmine
  have hcreate : sinks.place? s.storage .create = some ["new.tsv"] := rfl
  have hdelete : sinks.place? s.storage .delete = some ["old.tsv"] := rfl
  have hupdate : sinks.place? s.storage .update = none := rfl
  have hsinks : sinks.Separate s := by
    refine ⟨?_, fun _ => hjournal _⟩
    intro kind kind' location hkind hkind'
    cases kind <;> cases kind' <;> simp_all
  obtain ⟨entry, entry', hpass⟩ := diffFiles_of_openSinks hold hnew (fun _ _ => hjournal _) hsinks
    ⟨false⟩ (fun _ => []) observer ()
  obtain ⟨s', handles, hrun, -⟩ := (hpass _ _ rfl).2 _ rfl
  obtain ⟨-, -, hcount, hread, -⟩ :=
    readRows_diffFiles hold hnew hmark hsinks (fun _ _ => hjournal _) hrun
  exact ⟨s', _, hold, hnew, hmark, hsinks, hrun, _, hread .create "new.tsv" rfl,
    (hcount .create).symm⟩

end CourseFeed
