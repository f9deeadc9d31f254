import CourseFeed.Command.Run
import CourseFeed.Proofs.DiffReread
import CourseFeed.Proofs.ExportReread

/-!
# Rollovers and what they come after

A row that is marked as a rollover should name the course and the section that it comes after.

* **`Row.RolloverNamed`** — a row does, if it is a rollover at all.  A row that was marked as one
  does just if it did before (**`rolloverNamed_mark`**), and a change is never told by one that does
  not (**`Change.rolloverNamed_format`**).
* **`RolloversNamed`** — the same of what is read from the content of a file.
* **`rolloversNamed_diff`** — reconciling two feeds leaves every file as it was, or such that its
  rollovers are named.
* **`rolloversNamed_export_iff`** — an export marks all rows alike, so that its rollovers are named
  just if all elements come after something.
-/

namespace CourseFeed

open CourseFeed.Feed

/-! ## Rows -/

namespace Row

/-- A row names the course and the section that it comes after, if it is a rollover. -/
def RolloverNamed (r : Row) : Prop :=
  r.operationCode = Operation.rollover.code → r.oldCourseCode ≠ "" ∧ r.oldSectionId ≠ ""

instance (r : Row) : Decidable r.RolloverNamed := inferInstanceAs (Decidable (_ → _))

theorem hasPrevious_iff (r : Row) :
    r.hasPrevious = true ↔ r.oldCourseCode ≠ "" ∧ r.oldSectionId ≠ "" := by
  simp [hasPrevious]

/-- **A row that is marked as a rollover names what it comes after just if it did before.** -/
theorem rolloverNamed_mark {r : Row} (h : r.Full) (op : Operation) :
    (r.mark op).RolloverNamed ↔ (op = .rollover → r.hasPrevious = true) := by
  have hcode : op.code = Operation.rollover.code ↔ op = .rollover := by
    cases op <;> decide
  rw [RolloverNamed, operationCode_mark h, hcode, oldCourseCode_mark h, oldSectionId_mark h,
    hasPrevious_iff]
  refine forall_congr' ?_
  intro hop
  rw [if_pos hop, if_pos hop]

/-- The first cell has nothing to do with it. -/
theorem RolloverNamed.chopFirst {r : Row} (h : r.RolloverNamed) : r.chopFirst.RolloverNamed := by
  have hget : ∀ column, Column.courseCode ≠ column → r.chopFirst.get column = r.get column :=
    fun _ hne => r.get_set_of_ne _ hne
  rw [RolloverNamed, operationCode, oldCourseCode, oldSectionId, hget _ (by decide),
    hget _ (by decide), hget _ (by decide)]
  exact h

end Row

/-- **A change is told as a rollover only if the new row names what it comes after.** -/
theorem Change.rolloverNamed_format (options : DiffOptions) {c : Change} (h : c.told.Full) :
    (c.format options).RolloverNamed := by
  cases c with
  | create new =>
      refine (Row.rolloverNamed_mark h _).mpr ?_
      intro hop
      by_cases hboth : (options.rollover && new.hasPrevious) = true
      · exact (Bool.and_eq_true_iff.mp hboth).2
      · rw [if_neg hboth] at hop
        exact nomatch hop
  | delete old => exact (Row.rolloverNamed_mark h _).mpr fun hop => nomatch hop
  | update old new => exact (Row.rolloverNamed_mark h _).mpr fun hop => nomatch hop

/-! ## Files -/

/-- What is read from the content of a file are rows that name what they come after, where they are
    rollovers. -/
def RolloversNamed (content : List UInt8) : Prop :=
  ∃ rows, (∀ path, rowsOfBytes path content = .ok rows) ∧ ∀ r ∈ rows, r.RolloverNamed

/-- The lines of plain rows are read as these rows, but for an order mark and the names of the
    columns in front. -/
theorem exists_rowsOfBytes_rowBytes {rows : List Row} (hfull : ∀ r ∈ rows, r.Full)
    (hplain : ∀ r ∈ rows, r.Plain) :
    ∃ read, (∀ path, rowsOfBytes path (rows.flatMap rowBytes) = .ok read) ∧
      ∀ r ∈ read, ∃ r' ∈ rows, r = r' ∨ r = r'.chopFirst := by
  by_cases hmark : ∃ first ∈ rows.head?, first.HasOrderMark
  · obtain ⟨first, hfirst, hmark⟩ := hmark
    obtain ⟨rest, rfl⟩ := List.head?_eq_some_iff.mp hfirst
    refine ⟨_, fun path => (rowsOfBytes_rowBytes hfull path).trans
      (rowsOfText_lines_of_mark hfull hplain hmark), ?_⟩
    intro r hr
    rcases List.mem_cons.mp (mem_of_mem_dropHeader hr) with rfl | hmem
    · exact ⟨first, List.mem_cons_self, Or.inr rfl⟩
    · exact ⟨r, List.mem_cons_of_mem _ hmem, Or.inl rfl⟩
  · refine ⟨_, fun path => (rowsOfBytes_rowBytes hfull path).trans
      (rowsOfText_lines hfull hplain fun first hfirst hfound => hmark ⟨first, hfirst, hfound⟩), ?_⟩
    intro r hr
    exact ⟨r, mem_of_mem_dropHeader hr, Or.inl rfl⟩

theorem rolloversNamed_rowBytes {rows : List Row} (hfull : ∀ r ∈ rows, r.Full)
    (hplain : ∀ r ∈ rows, r.Plain) (hnamed : ∀ r ∈ rows, r.RolloverNamed) :
    RolloversNamed (rows.flatMap rowBytes) := by
  obtain ⟨read, hread, hrows⟩ := exists_rowsOfBytes_rowBytes hfull hplain
  refine ⟨read, hread, ?_⟩
  intro r hr
  obtain ⟨r', hr', rfl | rfl⟩ := hrows r hr
  · exact hnamed r hr'
  · exact (hnamed r' hr').chopFirst

theorem rolloversNamed_nil : RolloversNamed [] := by
  have hnone : ∀ {property : Row → Prop}, ∀ r ∈ ([] : List Row), property r :=
    fun r hr => nomatch hr
  exact rolloversNamed_rowBytes hnone hnone hnone

/-- **The lines of the changes that a pass tells of rows that were read** name what rollovers come
    after. -/
theorem rolloversNamed_linesTo {σ : Type} {olds news : List Row}
    (hread : ∀ r ∈ olds ++ news, r.Full ∧ r.Plain) (observer : Observer σ) (options : DiffOptions)
    (state : σ) (kind : ChangeKind) :
    RolloversNamed (linesTo kind
      (consult observer options state (changes (Keyed.ofRows olds) (Keyed.ofRows news))).2) := by
  have htold : ∀ call ∈ (consult observer options state
      (changes (Keyed.ofRows olds) (Keyed.ofRows news))).2,
      call.change.told.Full ∧ call.change.told.Plain :=
    fun call hcall => hread _ (told_mem_of_mem_consult hcall)
  generalize (consult observer options state
    (changes (Keyed.ofRows olds) (Keyed.ofRows news))).2 = calls at htold
  have hrows : ∀ r ∈ (calls.filter (Consultation.tells kind)).map Consultation.row,
      r.Full ∧ r.Plain ∧ r.RolloverNamed := by
    intro r hr
    obtain ⟨call, hcall, rfl⟩ := List.mem_map.mp hr
    obtain ⟨hfull, hplain⟩ := htold call (List.mem_filter.mp hcall).1
    exact ⟨Change.full_format _ hfull, Change.plain_format hplain _,
      Change.rolloverNamed_format _ hfull⟩
  rw [linesTo_eq_flatMap]
  exact rolloversNamed_rowBytes (fun r hr => (hrows r hr).1) (fun r hr => (hrows r hr).2.1)
    fun r hr => (hrows r hr).2.2

/-! ## Reconciling -/

/-- Opening sinks, to the last or to the first that cannot be opened, empties files. -/
theorem entry?_openSinks {sinks : DiffSinks} {kinds : List ChangeKind} {s s' : Session}
    {handles : Handles} {outputs : Outputs} {opened : Except Fault (Handles × Outputs)}
    (h : openSinks sinks s handles outputs kinds = (s', opened)) (location : Location) :
    s'.storage.entry? location = s.storage.entry? location ∨
      s'.storage.entry? location = some (.file []) := by
  induction kinds generalizing s handles outputs with
  | nil =>
      obtain ⟨rfl, -⟩ := Prod.mk.inj h
      exact Or.inl rfl
  | cons kind rest ih =>
      rw [openSinks] at h
      cases hpath : sinks.get kind with
      | none =>
          simp only [hpath] at h
          exact ih h
      | some path =>
          simp only [hpath] at h
          cases hcreate : s.create path with
          | error fault =>
              simp only [hcreate] at h
              obtain ⟨rfl, -⟩ := Prod.mk.inj h
              exact Or.inl rfl
          | ok made =>
              obtain ⟨s₁, handle⟩ := made
              simp only [hcreate] at h
              obtain ⟨-, hnot, rfl, -⟩ := Session.of_create hcreate
              have hroot := Storage.ne_root_of_not_directory hnot
              have hentry := Storage.entry?_put s.storage hroot (.file []) location
              rcases ih h with hsame | hempty
              · by_cases hplace : location = handle.location
                · rw [if_pos hplace] at hentry
                  exact Or.inr (hsame.trans hentry)
                · rw [if_neg hplace] at hentry
                  exact Or.inl (hsame.trans hentry)
              · exact Or.inr hempty

section

variable {σ : Type} {s s' : Session} {old new : String} {sinks : DiffSinks} {options : DiffOptions}
  {announce : Change → List JournalEntry} {observer : Observer σ} {state : σ}
  {result : Except Fault DiffSummary}

/-- What is at the place of an open sink. -/
theorem SinksOpen.entry?_eq {start : Session} {handles : Handles}
    (h : SinksOpen start sinks ChangeKind.all s handles) {kind : ChangeKind} {location : Location}
    (hplace : sinks.place? start.storage kind = some location) :
    s.storage.entry? location = some (.file (sinkContent start sinks s kind)) := by
  obtain ⟨path, hpath, -⟩ := Option.bind_eq_some_iff.mp hplace
  obtain ⟨handle, -, hfound, hopen⟩ := h.opened kind kind.mem_all path hpath
  obtain rfl := Option.some.inj (hplace.symm.trans hfound)
  rw [SinksOpen.content_eq hfound]
  exact hopen.stored

/-- **However a pass on files ends**, each file but that of the journal is as it was, or its
    rollovers are named. -/
theorem rolloversNamed_diffFiles (hstored : s.JournalStored) (hsinks : sinks.Separate s)
    (hrun : diffFiles s old new sinks options announce observer state = (s', result))
    {location : Location} (hnot : ¬ s.IsJournal location) :
    s'.storage.entry? location = s.storage.entry? location ∨
      ∃ content, s'.storage.entry? location = some (.file content) ∧ RolloversNamed content := by
  have hstart : Session.ChangedOnly s.IsJournal s s := .refl hstored
  have hnote : ∀ entry, Session.ChangedOnly s.IsJournal s (s.note entry) :=
    fun entry => hstart.note (fun _ hmine => hmine) entry
  rcases diffFiles_cases s old new sinks options announce observer state with
    ⟨fault, hfault⟩ | ⟨entry, fault, hfault⟩ | ⟨olds, news, entry, entry', hold, hnew, -, -, hopens⟩
  · obtain ⟨rfl, -⟩ := Prod.mk.inj (hrun.symm.trans hfault)
    exact Or.inl rfl
  · obtain ⟨rfl, -⟩ := Prod.mk.inj (hrun.symm.trans hfault)
    exact Or.inl ((hnote entry).elsewhere location hnot)
  · have hloaded := (hnote entry).note (fun _ hmine => hmine) entry'
    rcases hopens with ⟨s₁, fault, hopened, hfault⟩ | ⟨s₁, handles, hopened, hpass⟩
    · obtain ⟨rfl, -⟩ := Prod.mk.inj (hrun.symm.trans hfault)
      rcases entry?_openSinks hopened location with hsame | hempty
      · exact Or.inl (hsame.trans (hloaded.elsewhere location hnot))
      · exact Or.inr ⟨[], hempty, rolloversNamed_nil⟩
    · have hnone : SinksOpen s sinks [] _ .none := .of_changed (hloaded.mono fun _ => Or.inr)
      obtain ⟨hopen, hcontent⟩ := hnone.openSinks hsinks (by decide) hopened
      have hempty : ∀ kind, sinkContent s sinks s₁ kind = [] := by
        intro kind
        rw [hcontent, if_pos kind.mem_all]
      obtain ⟨s₂, handles', hrun', hopen', hlines⟩ :=
        runOnFiles_spec hsinks hopen hempty options announce observer state
          (Keyed.ofRows olds) (Keyed.ofRows news)
      obtain ⟨rfl, -⟩ := Prod.mk.inj (hrun.symm.trans (hpass.trans hrun'))
      by_cases hsink : ∃ kind, sinks.place? s.storage kind = some location
      · obtain ⟨kind, hplace⟩ := hsink
        refine Or.inr ⟨_, hopen'.entry?_eq hplace, ?_⟩
        obtain ⟨path, hpath, -⟩ := Option.bind_eq_some_iff.mp hplace
        rw [hlines, if_pos (by rw [hpath]; rfl)]
        exact rolloversNamed_linesTo (full_plain_of_readRows_append hold hnew) observer options
          state kind
      · refine Or.inl (hopen'.changed.elsewhere location ?_)
        rintro (hplace | hmine)
        · exact hsink hplace
        · exact hnot hmine

end

namespace Command

/-- The journal of a session that was opened is a stored file, and nothing else has changed. -/
theorem of_openSession {storage : Storage} {logFile : Option String} {verbose : Bool}
    {time : String} {session : Session}
    (h : openSession storage logFile verbose time = .ok session) :
    session.JournalStored ∧ ∀ location, ¬ session.IsJournal location →
      session.storage.entry? location = storage.entry? location := by
  cases logFile with
  | none =>
      obtain rfl := Except.ok.inj h
      exact ⟨fun _ hjournal => (nomatch hjournal), fun _ _ => rfl⟩
  | some path =>
      rw [openSession] at h
      cases hensure : storage.ensure path with
      | error fault =>
          simp only [hensure] at h
          exact nomatch h
      | ok made =>
          simp only [hensure] at h
          obtain rfl := Except.ok.inj h
          obtain ⟨⟨location, content⟩, hopen, hmade⟩ := bind_eq_ok_iff.mp hensure
          obtain rfl := Except.ok.inj hmade
          obtain ⟨-, hnot⟩ := Storage.of_openForWriting hopen
          have hroot := Storage.ne_root_of_not_directory hnot
          have hentry := Storage.entry?_put storage hroot (.file (content.getD []))
          constructor
          · intro journal hjournal
            obtain rfl := Option.some.inj hjournal
            exact ⟨_, (hentry location).trans (if_pos rfl)⟩
          · intro other hother
            refine (hentry other).trans (if_neg ?_)
            rintro rfl
            exact hother ⟨_, rfl, rfl⟩

/-- **A request to reconcile two feeds** leaves each file but that of the journal as it was, or such
    that its rollovers are named. -/
theorem rolloversNamed_diff (r : DiffRequest) (time : String) (storage : Storage)
    (hsinks : ∀ session, openSession storage r.logFile r.verbose time = .ok session →
      r.sinks.Separate session)
    {location : Location}
    (hlog : ∀ session, openSession storage r.logFile r.verbose time = .ok session →
      ¬ session.IsJournal location) :
    Storage.entry? (r.run time storage).1 location = storage.entry? location ∨
      ∃ content, Storage.entry? (r.run time storage).1 location = some (.file content) ∧
        RolloversNamed content := by
  cases hsession : openSession storage r.logFile r.verbose time with
  | error fault =>
      simp only [DiffRequest.run, hsession]
      exact Or.inl trivial
  | ok session =>
      obtain ⟨hstored, hothers⟩ := of_openSession hsession
      have hnot := hlog session hsession
      rw [← hothers location hnot]
      simp only [DiffRequest.run, hsession]
      exact rolloversNamed_diffFiles hstored (hsinks session hsession) rfl hnot

end Command

/-! ## Exporting -/

namespace Element

/-- An element comes after a course and a section that both have a name. -/
def ComesAfter (e : Element) : Prop := ∃ p, e.previous = some p ∧ p.code ≠ "" ∧ p.sectionId ≠ ""

theorem hasPrevious_row_iff (e : Element) : e.row.hasPrevious = true ↔ e.ComesAfter := by
  rw [Row.hasPrevious_iff, oldCourseCode_row, oldSectionId_row, ComesAfter]
  cases e.previous with
  | none =>
      constructor
      · rintro ⟨hcode, -⟩
        exact absurd rfl hcode
      · rintro ⟨p, hnone, -⟩
        exact nomatch hnone
  | some p =>
      constructor
      · intro hnamed
        exact ⟨p, rfl, hnamed⟩
      · rintro ⟨p', hsame, hnamed⟩
        obtain rfl := Option.some.inj hsame
        exact hnamed

end Element

namespace Catalog

/-- The rows of an export name what they come after just if it marks none as a rollover, or if all
    elements come after something. -/
theorem rolloverNamed_markedRows_iff (c : Catalog) (filters : List (Filter Element))
    (op : Operation) :
    (∀ r ∈ c.markedRows filters op, r.RolloverNamed) ↔
      (op = .rollover → ∀ e ∈ c.elements filters, e.ComesAfter) := by
  have hrow : ∀ e : Element, (e.row.mark op).RolloverNamed ↔ (op = .rollover → e.ComesAfter) := by
    intro e
    rw [Row.rolloverNamed_mark e.full_row, e.hasPrevious_row_iff]
  rw [markedRows, List.forall_mem_map]
  constructor
  · intro hnamed hop e he
    exact (hrow e).mp (hnamed e he) hop
  · intro hafter e he
    exact (hrow e).mpr fun hop => hafter hop e he

/-- Where an export can be read back, what is read names just what its rows do. -/
theorem rolloversNamed_feedBytes_iff {rows : List Row} (hfull : ∀ r ∈ rows, r.Full)
    (hplain : ∀ r ∈ rows, r.Plain) :
    RolloversNamed (feedBytes rows) ↔ ∀ r ∈ rows, r.RolloverNamed := by
  have hread : ∀ path, rowsOfBytes path (feedBytes rows) = .ok rows :=
    fun path => (rowsOfBytes_iff hfull path).mpr hplain
  constructor
  · rintro ⟨rows', hrows, hnamed⟩
    obtain rfl := Except.ok.inj ((hread "").symm.trans (hrows ""))
    exact hnamed
  · intro hnamed
    exact ⟨rows, hread, hnamed⟩

/-- **An export marks all rows alike**, so that its rollovers are named just if it marks none or if
    all its elements come after something. -/
theorem rolloversNamed_export_iff {s : Session} {path : String} {file : FeedFile} {w : Writer}
    (hcreate : FeedFile.create s path true = .ok (file, w))
    (hapart : s.Apart file.handle.location) (c : Catalog) (filters : List (Filter Element))
    (op : Operation) :
    ∃ file' w' file'',
      c.exportTo FeedFile.deliver FeedFile.note file w filters op =
        (file', w', .ok (c.elements filters).length) ∧
      w'.finish FeedFile.deliver file' = (file'', none) ∧
      file''.session.storage.entry? file.handle.location =
        some (.file (feedBytes (c.markedRows filters op))) ∧
      ((∀ r ∈ c.markedRows filters op, r.RolloverNamed) ↔
        (op = .rollover → ∀ e ∈ c.elements filters, e.ComesAfter)) ∧
      ((∀ e ∈ c.elements filters, (e.row.mark op).Plain) →
        (RolloversNamed (feedBytes (c.markedRows filters op)) ↔
          (op = .rollover → ∀ e ∈ c.elements filters, e.ComesAfter))) := by
  obtain ⟨file', w', file'', hexport, hfinish, hopen, hcontent⟩ :=
    content_export hcreate hapart c filters op
  have hrows := c.rolloverNamed_markedRows_iff filters op
  refine ⟨file', w', file'', hexport, hfinish, ?_, hrows, ?_⟩
  · rw [← hopen.place, hopen.stored, hcontent]
  · intro hplain
    refine Iff.trans ?_ hrows
    exact rolloversNamed_feedBytes_iff (c.full_markedRows filters op)
      (List.forall_mem_map.mpr hplain)

end Catalog

/-- **Which rollovers name what they come after.**  A request to reconcile two feeds whose sinks and
    journal are files of their own leaves each file but the journal as it was, or such that the
    rows read from it name what they come after where they are rollovers.  An export writes such
    rows just if it marks none as a rollover or if all elements that it selects come after a course
    and a section that both have a name; where its cells can be read back, so can be said of what is
    read from its file. -/
theorem rollovers_named :
    (∀ (r : Command.DiffRequest) (time : String) (storage : Storage) (location : Location),
      (∀ session, Command.openSession storage r.logFile r.verbose time = .ok session →
        r.sinks.Separate session ∧ ¬ session.IsJournal location) →
      Storage.entry? (r.run time storage).1 location = storage.entry? location ∨
        ∃ content, Storage.entry? (r.run time storage).1 location = some (.file content) ∧
          RolloversNamed content) ∧
    ∀ (s : Session) (path : String) (file : FeedFile) (w : Writer) (c : Catalog)
      (filters : List (Filter Element)) (op : Operation),
      FeedFile.create s path true = .ok (file, w) → s.Apart file.handle.location →
      ∃ file' w' file'',
        c.exportTo FeedFile.deliver FeedFile.note file w filters op =
          (file', w', .ok (c.elements filters).length) ∧
        w'.finish FeedFile.deliver file' = (file'', none) ∧
        file''.session.storage.entry? file.handle.location =
          some (.file (feedBytes (c.markedRows filters op))) ∧
        ((∀ r ∈ c.markedRows filters op, r.RolloverNamed) ↔
          (op = .rollover → ∀ e ∈ c.elements filters, e.ComesAfter)) ∧
        ((∀ e ∈ c.elements filters, (e.row.mark op).Plain) →
          (RolloversNamed (feedBytes (c.markedRows filters op)) ↔
            (op = .rollover → ∀ e ∈ c.elements filters, e.ComesAfter))) := by
  constructor
  · intro r time storage location hapart
    exact Command.rolloversNamed_diff r time storage (fun session hsession =>
      (hapart session hsession).1) fun session hsession => (hapart session hsession).2
  · intro s path file w c filters op hcreate hapart
    exact Catalog.rolloversNamed_export_iff hcreate hapart c filters op

/-- One section that comes after another is created, and one that does is exported. -/
theorem rollovers_named_one_course :
    let storage : Storage :=
      ⟨[], [(["old.tsv"], .file []), (["new.tsv"], .file (rowBytes (Row.about "A" "1")))]⟩
    let request : Command.DiffRequest :=
      ⟨"old.tsv", "new.tsv", ⟨some "out.tsv", none, none⟩, ⟨true⟩, false, none⟩
    let s : Session := ⟨storage, none⟩
    let c : Catalog := ⟨[{ code := "B", previous := some ⟨"A", "1"⟩ }]⟩
    (Storage.entry? (request.run "" storage).1 ["out.tsv"] = storage.entry? ["out.tsv"] ∨
      ∃ content, Storage.entry? (request.run "" storage).1 ["out.tsv"] = some (.file content) ∧
        RolloversNamed content) ∧
    ∃ file w file' w' file'', FeedFile.create s "feed.tsv" true = .ok (file, w) ∧
      c.exportTo FeedFile.deliver FeedFile.note file w [] .rollover = (file', w', .ok 1) ∧
      w'.finish FeedFile.deliver file' = (file'', none) ∧
      ∀ r ∈ c.markedRows [] .rollover, r.RolloverNamed := by
  intro storage request s c
  have hmade : s.create "feed.tsv" =
      .ok (s.put ["feed.tsv"] (.file []), ⟨["feed.tsv"], 0⟩) := by rfl
  have hapart : ∀ location, s.Apart location := fun _ _ hjournal => nomatch hjournal
  constructor
  · refine rollovers_named.1 request "" storage ["out.tsv"] ?_
    intro session hsession
    obtain rfl := Except.ok.inj hsession
    have hcreate : ∀ kind location, request.sinks.place? storage kind = some location →
        kind = .create := by
      intro kind location hplace
      cases kind with
      | create => rfl
      | delete => exact nomatch (show none = some location from hplace)
      | update => exact nomatch (show none = some location from hplace)
    refine ⟨⟨?_, fun _ => hapart _⟩, ?_⟩
    · intro kind kind' location hkind hkind'
      rw [hcreate kind location hkind, hcreate kind' location hkind']
    · rintro ⟨journal, hjournal, -⟩
      exact nomatch hjournal
  · obtain ⟨file', w', file'', hexport, hfinish, -, hnamed, -⟩ :=
      rollovers_named.2 s "feed.tsv" _ _ c [] .rollover (FeedFile.create_eq_ok hmade) (hapart _)
    have hafter : ∀ e ∈ c.elements [], e.row.hasPrevious = true := by decide +kernel
    exact ⟨_, _, file', w', file'', FeedFile.create_eq_ok hmade, hexport, hfinish,
      hnamed.mpr fun _ e he => e.hasPrevious_row_iff.mp (hafter e he)⟩

/-- A course that comes after nothing is exported as a rollover if all are, and names nothing.
    Where two sinks of a pass are one file, the line of a deletion is written over the start of that
    of a rollover, and what is left of it may read as a rollover that does not say what it comes
    after. -/
theorem rollovers_unnamed :
    let s : Session := ⟨⟨[], []⟩, none⟩
    let c : Catalog := ⟨[{ code := "MATH-101", year := 2024 }]⟩
    let new := (((Row.about "N" "").set Column.courseTitle
      "A title that is longer than thirty-eight bytes").set Column.oldCourseCode "ROLLOVER").set
        Column.oldSectionId "S"
    let storage : Storage :=
      ⟨[], [(["old.tsv"], .file [0x44, 0x0A]), (["new.tsv"], .file (rowBytes new))]⟩
    let request : Command.DiffRequest :=
      ⟨"old.tsv", "new.tsv", ⟨some "out.tsv", some "out.tsv", none⟩, ⟨true⟩, false, none⟩
    (∃ file w file' w' file'', FeedFile.create s "feed.tsv" true = .ok (file, w) ∧
      c.exportTo FeedFile.deliver FeedFile.note file w [] .rollover = (file', w', .ok 1) ∧
      w'.finish FeedFile.deliver file' = (file'', none) ∧
      ∃ rows, readRows file''.session.storage "feed.tsv" = .ok rows ∧
        ∃ r ∈ rows, ¬ r.RolloverNamed) ∧
    ∃ r ∈ (readRows (request.run "" storage).1 "out.tsv").toOption.getD [],
      ¬ r.RolloverNamed := by
  intro s c new storage request
  constructor
  · have hmade : s.create "feed.tsv" =
        .ok (s.put ["feed.tsv"] (.file []), ⟨["feed.tsv"], 0⟩) := by rfl
    have hapart : s.Apart ["feed.tsv"] := fun _ hjournal => nomatch hjournal
    obtain ⟨file', w', file'', hexport, hfinish, hread⟩ :=
      Catalog.readRows_export (FeedFile.create_eq_ok hmade) hapart c [] .rollover
    have hplain : ∀ r ∈ c.markedRows [] .rollover, r.Plain := by decide +kernel
    rw [(rowsOfBytes_iff (c.full_markedRows [] .rollover) "feed.tsv").mpr hplain] at hread
    have hunnamed : ∃ r ∈ c.markedRows [] .rollover, ¬ r.RolloverNamed := by decide +kernel
    exact ⟨_, _, file', w', file'', FeedFile.create_eq_ok hmade, hexport, hfinish, _, hread,
      hunnamed⟩
  · decide +kernel

end CourseFeed
