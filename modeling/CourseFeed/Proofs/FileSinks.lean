import CourseFeed.Proofs.CallByCall
import CourseFeed.Proofs.StoredFeeds

/-!
# Sinks in files

A pass on files writes to one storage for all kinds of change, and the journal may be there too.
Where no two of these are one file, each sink is as if it stood alone.

* **`Session.ChangedOnly`** — a session in which files at some places have changed, and nothing
  else: putting a file at such a place (**`ChangedOnly.put`**) and noting something down
  (**`ChangedOnly.note`**) keep that.
* **`DiffSinks.Separate`** — no two sinks lead to one place, and none to the journal.
* **`SinksOpen`** — the sinks of some kinds are open at their ends.  It is kept by opening one more
  (**`SinksOpen.create`**), by deliveries (**`SinksOpen.deliver`**) and by noting something down
  (**`SinksOpen.note`**), each of which changes what is in one sink at most.
* **`faithful_files`** — so each act of a pass on files does what it is for, and nothing else.
-/

namespace CourseFeed

open CourseFeed.Feed

/-! ## Sessions that changed at some places -/

/-- The location to which a path leads. -/
def Storage.place? (s : Storage) (path : String) : Option Location :=
  (s.locate path).toOption.map Prod.fst

theorem Storage.place?_of_locate {s : Storage} {path : String} {found : Location × Bool}
    (h : s.locate path = .ok found) : s.place? path = some found.1 := by
  rw [place?, h]
  rfl

namespace Session

/-- The journal of a session is kept at a location. -/
def IsJournal (s : Session) (location : Location) : Prop :=
  ∃ journal, s.journal = some journal ∧ journal.location = location

/-- Files at some places have changed in a session since it started, and nothing else has. -/
structure ChangedOnly (places : Location → Prop) (start s : Session) : Prop where
  journal : s.journal = start.journal
  logs : ∀ journal, s.journal = some journal →
    ∃ content, s.storage.entry? journal.location = some (.file content)
  keeps : start.storage.Keeps s.storage
  kept : s.storage.Keeps start.storage
  elsewhere : ∀ location, ¬ places location →
    s.storage.entry? location = start.storage.entry? location

namespace ChangedOnly

variable {places : Location → Prop} {start s : Session}

/-- Nothing has changed at first. -/
theorem refl (h : start.JournalStored) : ChangedOnly places start start where
  journal := rfl
  logs := h
  keeps := ⟨rfl, fun _ hentry => hentry⟩
  kept := ⟨rfl, fun _ hentry => hentry⟩
  elsewhere := fun _ _ => rfl

theorem mono {places' : Location → Prop} (h : ChangedOnly places start s)
    (hplaces : ∀ location, places location → places' location) : ChangedOnly places' start s :=
  { h with elsewhere := fun location hnot =>
      h.elsewhere location fun hplace => hnot (hplaces location hplace) }

/-- One more file at such a place. -/
theorem put (h : ChangedOnly places start s) {location : Location} (hplace : places location)
    (hnot : s.storage.entry? location ≠ some .directory) (content : List UInt8) :
    ChangedOnly places start (s.put location (.file content)) := by
  have hroot := Storage.ne_root_of_not_directory hnot
  have hentry := Storage.entry?_put s.storage hroot (.file content)
  refine ⟨h.journal, ?_, h.keeps.trans (Storage.keeps_put s.storage content hnot),
    (Storage.put_keeps s.storage hroot content).trans h.kept, ?_⟩
  · intro journal hjournal
    show ∃ content', Storage.entry? (s.storage.put location (.file content)) journal.location = _
    rw [hentry]
    by_cases hsame : journal.location = location
    · rw [if_pos hsame]
      exact ⟨content, rfl⟩
    · rw [if_neg hsame]
      exact h.logs journal hjournal
  · intro other hother
    have hne : other ≠ location := by
      rintro rfl
      exact hother hplace
    show Storage.entry? (s.storage.put location (.file content)) other = _
    rw [hentry, if_neg hne]
    exact h.elsewhere other hother

/-- Noting something down, where that is a change that may be. -/
theorem note (h : ChangedOnly places start s)
    (hjournal : ∀ location, start.IsJournal location → places location) (entry : JournalEntry) :
    ChangedOnly places start (s.note entry) := by
  rcases s.note_cases entry with hsame | ⟨journal, hmine, line, hnote⟩
  · rw [hsame]
    exact h
  · obtain ⟨content, hcontent⟩ := h.logs journal hmine
    rw [hnote]
    exact h.put (hjournal _ ⟨journal, h.journal.symm.trans hmine, rfl⟩)
      (Storage.not_directory_of_file hcontent) line

/-- The journal is still elsewhere. -/
theorem apart (h : ChangedOnly places start s) {location : Location}
    (hapart : start.Apart location) : s.Apart location :=
  fun journal hjournal =>
    ⟨(hapart journal (h.journal.symm.trans hjournal)).1, h.logs journal hjournal⟩

/-- A path leads where it led. -/
theorem place?_eq (h : ChangedOnly places start s) {path : String} {found : Location × Bool}
    (hlocate : s.storage.locate path = .ok found) : start.storage.place? path = some found.1 :=
  Storage.place?_of_locate (h.kept.locate_eq hlocate)

/-- What is found at other places is what was there. -/
theorem openEntry_eq (h : ChangedOnly places start s) {path : String}
    (hplace : ∀ location, start.storage.place? path = some location → ¬ places location)
    {entry : Entry} (hopen : start.storage.openEntry path = .ok entry) :
    s.storage.openEntry path = .ok entry := by
  obtain ⟨⟨location, directory⟩, hlocate, hfound⟩ := bind_eq_ok_iff.mp hopen
  refine bind_eq_ok_iff.mpr ⟨(location, directory), h.keeps.locate_eq hlocate, ?_⟩
  rw [← hfound]
  simp only [h.elsewhere location (hplace location (Storage.place?_of_locate hlocate))]

end ChangedOnly

end Session

/-! ## Open sinks -/

namespace DiffSinks

/-- The location to which the sink of a kind leads. -/
def place? (sinks : DiffSinks) (s : Storage) (kind : ChangeKind) : Option Location :=
  (sinks.get kind).bind s.place?

theorem place?_eq {sinks : DiffSinks} {kind : ChangeKind} {path : String}
    (h : sinks.get kind = some path) (s : Storage) : sinks.place? s kind = s.place? path := by
  rw [place?, h]
  rfl

/-- No two sinks lead to one place, and none to the journal. -/
structure Separate (sinks : DiffSinks) (s : Session) : Prop where
  distinct : ∀ {kind kind' : ChangeKind} {location : Location},
    sinks.place? s.storage kind = some location →
      sinks.place? s.storage kind' = some location → kind = kind'
  apart : ∀ {kind : ChangeKind} {location : Location},
    sinks.place? s.storage kind = some location → s.Apart location

/-- The sink of another kind leads elsewhere. -/
theorem Separate.place?_eq_iff {sinks : DiffSinks} {s : Session} (h : sinks.Separate s)
    {kind : ChangeKind} {location : Location} (hplace : sinks.place? s.storage kind = some location)
    (other : ChangeKind) : sinks.place? s.storage other = some location ↔ other = kind := by
  constructor
  · intro hsame
    exact h.distinct hsame hplace
  · rintro rfl
    exact hplace

/-- A place to which a pass may write: that of a sink or of the journal. -/
def Written (sinks : DiffSinks) (s : Session) (location : Location) : Prop :=
  (∃ kind, sinks.place? s.storage kind = some location) ∨ s.IsJournal location

end DiffSinks

theorem Handles.get_set (h : Handles) (kind other : ChangeKind) (handle : Handle) :
    (h.set kind handle).get other = if other = kind then some handle else h.get other := by
  cases kind <;> cases other <;> rfl

/-- What is in the file of a sink. -/
def sinkContent (start : Session) (sinks : DiffSinks) (s : Session) (kind : ChangeKind) :
    List UInt8 :=
  (sinks.place? start.storage kind).elim [] s.storage.contentAt

/-- The sinks of some kinds are open, each at the end of its file, and nothing has changed since
    the start but files to which a pass may write. -/
structure SinksOpen (start : Session) (sinks : DiffSinks) (kinds : List ChangeKind) (s : Session)
    (handles : Handles) : Prop where
  changed : Session.ChangedOnly (sinks.Written start) start s
  opened : ∀ kind ∈ kinds, ∀ path, sinks.get kind = some path →
    ∃ handle, handles.get kind = some handle ∧
      sinks.place? start.storage kind = some handle.location ∧
      (FeedFile.mk s handle).Open path handle.location

section

variable {start : Session} {sinks : DiffSinks} {kinds : List ChangeKind} {s : Session}
  {handles : Handles} {kind : ChangeKind} {path : String}

/-- Putting a file somewhere changes what is in the sink that leads there, if there is one. -/
theorem sinkContent_put {place : Location} (hroot : place ≠ []) (content : List UInt8)
    (kind : ChangeKind) :
    sinkContent start sinks (s.put place (.file content)) kind =
      if sinks.place? start.storage kind = some place then content
      else sinkContent start sinks s kind := by
  rw [sinkContent, sinkContent]
  cases hplace : sinks.place? start.storage kind with
  | none => rfl
  | some location =>
      have hentry := Storage.entry?_put s.storage hroot (.file content) location
      show Storage.contentAt (s.storage.put place (.file content)) location = _
      by_cases hsame : location = place
      · rw [if_pos hsame] at hentry
        rw [if_pos (congrArg some hsame)]
        exact Storage.contentAt_eq hentry
      · rw [if_neg hsame] at hentry
        rw [if_neg (fun h => hsame (Option.some.inj h)), Storage.contentAt, hentry]
        rfl

namespace SinksOpen

/-- Before any sink is opened. -/
theorem of_changed (h : Session.ChangedOnly (sinks.Written start) start s) :
    SinksOpen start sinks [] s .none where
  changed := h
  opened := by
    intro kind hkind
    exact absurd hkind List.not_mem_nil

/-- An open sink stays open while a file is put at another place. -/
theorem opened_put (h : SinksOpen start sinks kinds s handles) {place : Location}
    (hnot : s.storage.entry? place ≠ some .directory) (content : List UInt8)
    (hkind : kind ∈ kinds) (hpath : sinks.get kind = some path)
    (hne : sinks.place? start.storage kind ≠ some place) :
    ∃ handle, handles.get kind = some handle ∧
      sinks.place? start.storage kind = some handle.location ∧
      (FeedFile.mk (s.put place (.file content)) handle).Open path handle.location := by
  obtain ⟨handle, hget, hplace, hopen⟩ := h.opened kind hkind path hpath
  refine ⟨handle, hget, hplace, (hopen.put ?_ hnot content).1⟩
  rintro rfl
  exact hne hplace

/-- What is in the file of an open sink. -/
theorem content_eq {handle : Handle} (hplace : sinks.place? start.storage kind =
    some handle.location) : sinkContent start sinks s kind = (FeedFile.mk s handle).content := by
  rw [sinkContent, hplace]
  rfl

/-- **A delivery adds its bytes to what is in the sink of its kind**, and leaves the others as they
    are. -/
theorem deliver (h : SinksOpen start sinks kinds s handles) (hsinks : sinks.Separate start)
    (hkind : kind ∈ kinds) (hpath : sinks.get kind = some path) (bytes : List UInt8) :
    ∃ handle s' handle', handles.get kind = some handle ∧
      s.writeTo handle bytes = (s', handle') ∧
      SinksOpen start sinks kinds s' (handles.set kind handle') ∧
      ∀ other, sinkContent start sinks s' other =
        if other = kind then sinkContent start sinks s other ++ bytes
        else sinkContent start sinks s other := by
  obtain ⟨handle, hget, hplace, hopen⟩ := h.opened kind hkind path hpath
  have hnot := Storage.not_directory_of_file hopen.stored
  have hextended := hopen.extended bytes
  have hwrite : s.writeTo handle bytes =
      (((FeedFile.mk s handle).extended bytes).session,
        ((FeedFile.mk s handle).extended bytes).handle) := by
    have hfile := Except.ok.inj (hopen.deliver_eq bytes)
    exact Prod.ext (congrArg FeedFile.session hfile) (congrArg FeedFile.handle hfile)
  have hother := hsinks.place?_eq_iff hplace
  refine ⟨handle, _, _, hget, hwrite, ⟨?_, ?_⟩, ?_⟩
  · exact h.changed.put (Or.inl ⟨kind, hplace⟩) hnot _
  · intro other hmem path' hpath'
    rw [Handles.get_set]
    by_cases hsame : other = kind
    · subst hsame
      obtain rfl := Option.some.inj (hpath.symm.trans hpath')
      exact ⟨_, if_pos rfl, hplace, hextended⟩
    · rw [if_neg hsame]
      exact h.opened_put hnot _ hmem hpath' fun hmine => hsame ((hother other).mp hmine)
  · intro other
    refine (sinkContent_put (s := s) (Storage.ne_root_of_file hopen.stored) _ other).trans ?_
    by_cases hsame : other = kind
    · rw [if_pos ((hother other).mpr hsame), if_pos hsame, hsame, content_eq hplace]
    · rw [if_neg (fun hmine => hsame ((hother other).mp hmine)), if_neg hsame]

/-- Noting something down leaves the sinks as they are. -/
theorem note (h : SinksOpen start sinks kinds s handles) (hsinks : sinks.Separate start)
    (entry : JournalEntry) :
    SinksOpen start sinks kinds (s.note entry) handles ∧
      sinkContent start sinks (s.note entry) = sinkContent start sinks s := by
  refine ⟨⟨h.changed.note (fun _ => Or.inr) entry, ?_⟩, ?_⟩
  · intro kind hkind path hpath
    obtain ⟨handle, hget, hplace, hopen⟩ := h.opened kind hkind path hpath
    exact ⟨handle, hget, hplace, (hopen.note entry).1⟩
  · funext kind
    rcases s.note_cases entry with hsame | ⟨journal, hmine, line, hnote⟩
    · rw [hsame]
    · obtain ⟨content, hcontent⟩ := h.changed.logs journal hmine
      rw [hnote, sinkContent_put (Storage.ne_root_of_file hcontent), if_neg]
      intro hplace
      exact (hsinks.apart hplace journal (h.changed.journal.symm.trans hmine)).1 rfl

/-- **Opening one more sink** empties its file and leaves the others as they are. -/
theorem create (h : SinksOpen start sinks kinds s handles) (hsinks : sinks.Separate start)
    (hkind : kind ∉ kinds) (hpath : sinks.get kind = some path) {s' : Session} {handle : Handle}
    (hcreate : s.create path = .ok (s', handle)) :
    SinksOpen start sinks (kinds ++ [kind]) s' (handles.set kind handle) ∧
      ∀ other, sinkContent start sinks s' other =
        if other = kind then [] else sinkContent start sinks s other := by
  obtain ⟨hlocate, hnot, rfl, -⟩ := Session.of_create hcreate
  obtain ⟨hend, -⟩ := FeedFile.atEnd_of_create hcreate
  have hroot := Storage.ne_root_of_not_directory hnot
  have hplace : sinks.place? start.storage kind = some handle.location :=
    (DiffSinks.place?_eq hpath start.storage).trans (h.changed.place?_eq hlocate)
  have hother := hsinks.place?_eq_iff hplace
  refine ⟨⟨h.changed.put (Or.inl ⟨kind, hplace⟩) hnot [], ?_⟩, ?_⟩
  · intro other hmem path' hpath'
    rw [Handles.get_set]
    by_cases hsame : other = kind
    · subst hsame
      obtain rfl := Option.some.inj (hpath.symm.trans hpath')
      refine ⟨handle, if_pos rfl, hplace, hend, ?_⟩
      exact (h.changed.apart (hsinks.apart hplace)).put hroot []
    · rw [if_neg hsame]
      have hopened : other ∈ kinds := by
        rcases List.mem_append.mp hmem with hmem | hmem
        · exact hmem
        · exact absurd (List.mem_singleton.mp hmem) hsame
      exact h.opened_put hnot [] hopened hpath' fun hmine => hsame ((hother other).mp hmine)
  · intro other
    rw [sinkContent_put hroot]
    by_cases hsame : other = kind
    · rw [if_pos ((hother other).mpr hsame), if_pos hsame]
    · rw [if_neg (fun hmine => hsame ((hother other).mp hmine)), if_neg hsame]

/-- **Opening sinks** one after the other opens all of them, and their files are empty then. -/
theorem openSinks (h : SinksOpen start sinks kinds s handles) (hsinks : sinks.Separate start)
    {rest : List ChangeKind} (hnodup : (kinds ++ rest).Nodup) {outputs outputs' : Outputs}
    {s' : Session} {handles' : Handles}
    (hrun : CourseFeed.openSinks sinks s handles outputs rest = (s', .ok (handles', outputs'))) :
    SinksOpen start sinks (kinds ++ rest) s' handles' ∧
      ∀ kind, sinkContent start sinks s' kind =
        if kind ∈ rest then [] else sinkContent start sinks s kind := by
  induction rest generalizing kinds s handles outputs with
  | nil =>
      obtain ⟨rfl, hok⟩ := Prod.mk.inj hrun
      obtain ⟨rfl, -⟩ := Prod.mk.inj (Except.ok.inj hok)
      rw [List.append_nil]
      exact ⟨h, fun _ => rfl⟩
  | cons kind rest ih =>
      have hnodup' : ((kinds ++ [kind]) ++ rest).Nodup := by
        rw [← List.append_cons]
        exact hnodup
      rw [CourseFeed.openSinks] at hrun
      cases hpath : sinks.get kind with
      | none =>
          -- a kind without a sink counts as opened, and nothing is in its sink
          have hopen : SinksOpen start sinks (kinds ++ [kind]) s handles := by
            refine ⟨h.changed, ?_⟩
            intro other hmem path hother
            rcases List.mem_append.mp hmem with hmem | hmem
            · exact h.opened other hmem path hother
            · rw [List.mem_singleton.mp hmem, hpath] at hother
              exact nomatch hother
          have hnothing : sinkContent start sinks s kind = [] := by
            rw [sinkContent, DiffSinks.place?, hpath]
            rfl
          simp only [hpath] at hrun
          obtain ⟨hall, hcontent⟩ := ih hopen hnodup' hrun
          rw [List.append_cons]
          refine ⟨hall, ?_⟩
          intro other
          rw [hcontent]
          by_cases hsame : other = kind
          · rw [hsame, hnothing, if_pos List.mem_cons_self]
            exact ite_self _
          · simp [hsame]
      | some path =>
          simp only [hpath] at hrun
          cases hcreate : s.create path with
          | error fault =>
              rw [hcreate] at hrun
              exact nomatch (Prod.mk.inj hrun).2
          | ok made =>
              obtain ⟨s₁, handle⟩ := made
              simp only [hcreate] at hrun
              have hkind : kind ∉ kinds := by
                intro hmem
                exact (List.nodup_append.mp hnodup).2.2 kind hmem kind List.mem_cons_self rfl
              obtain ⟨hopen, hempty⟩ := h.create hsinks hkind hpath hcreate
              obtain ⟨hall, hcontent⟩ := ih hopen hnodup' hrun
              rw [List.append_cons]
              refine ⟨hall, ?_⟩
              intro other
              rw [hcontent, hempty]
              by_cases hsame : other = kind
              · simp [hsame]
              · simp [hsame]

end SinksOpen

end

/-- The buffers of sinks that were opened one after the other. -/
theorem outputs_openSinks {sinks : DiffSinks} {rest : List ChangeKind} {s s' : Session}
    {handles handles' : Handles} {outputs outputs' : Outputs}
    (hrun : openSinks sinks s handles outputs rest = (s', .ok (handles', outputs'))) :
    outputs' = rest.foldl
      (fun o kind => (sinks.get kind).elim o fun path => o.set kind (.empty path)) outputs := by
  induction rest generalizing s handles outputs with
  | nil =>
      obtain ⟨-, hok⟩ := Prod.mk.inj hrun
      exact (Prod.mk.inj (Except.ok.inj hok)).2.symm
  | cons kind rest ih =>
      rw [openSinks] at hrun
      rw [List.foldl_cons]
      cases hpath : sinks.get kind with
      | none =>
          simp only [hpath] at hrun
          exact ih hrun
      | some path =>
          simp only [hpath] at hrun
          cases hcreate : s.create path with
          | error fault =>
              rw [hcreate] at hrun
              exact nomatch (Prod.mk.inj hrun).2
          | ok made =>
              simp only [hcreate] at hrun
              exact ih hrun

/-- Once all sinks are opened there is an empty buffer for each of them. -/
theorem outputs_openSinks_all {sinks : DiffSinks} {s s' : Session} {handles : Handles}
    {outputs : Outputs}
    (hrun : openSinks sinks s .none .none ChangeKind.all = (s', .ok (handles, outputs))) :
    outputs = .opened sinks := by
  rw [outputs_openSinks hrun]
  obtain ⟨create, delete, update⟩ := sinks
  cases create <;> cases delete <;> cases update <;> rfl

/-! ## The stage of a pass on files -/

/-- What there is to see of a pass on files. -/
def fileView (start : Session) (sinks : DiffSinks) (σ : Type) : View (FileWorld σ) σ where
  state := FileWorld.state
  held := fun w => sinkContent start sinks w.session
  ready := fun w => SinksOpen start sinks ChangeKind.all w.session w.handles
  takes := fun kind => (sinks.get kind).isSome

/-- **Each act of a pass on files does what it is for**, and nothing else. -/
theorem faithful_files {σ : Type} {start : Session} {sinks : DiffSinks}
    (hsinks : sinks.Separate start) (options : DiffOptions) (announce : Change → List JournalEntry)
    (observer : Observer σ) :
    (fileView start sinks σ).Faithful (fileStage options announce observer) options observer where
  observe := by
    intro w c hready
    have hnote : ∀ (s : Session) (entry : JournalEntry),
        SinksOpen start sinks ChangeKind.all s w.handles →
          SinksOpen start sinks ChangeKind.all (s.note entry) w.handles ∧
            sinkContent start sinks (s.note entry) = sinkContent start sinks s :=
      fun _ entry hopen => hopen.note hsinks entry
    -- whatever is announced is noted down first
    obtain ⟨hopen, hcontent⟩ := foldl_note hnote (announce c) w.session hready
    exact ⟨{ w with
      state := (observer w.state c options).1,
      session := (announce c).foldl Session.note w.session }, rfl, hopen, rfl, hcontent⟩
  deliver := by
    intro kind w bytes htakes hready
    obtain ⟨path, hpath⟩ := Option.isSome_iff_exists.mp htakes
    obtain ⟨handle, s', handle', hget, hwrite, hopen, hcontent⟩ :=
      SinksOpen.deliver hready hsinks kind.mem_all hpath bytes
    refine ⟨{ w with session := s', handles := w.handles.set kind handle' }, ?_, hopen, rfl,
      hcontent⟩
    simp only [fileStage, hget, hwrite]
  note := by
    intro w entry hready
    obtain ⟨hopen, hcontent⟩ := SinksOpen.note hready hsinks entry
    exact ⟨hopen, rfl, hcontent⟩

end CourseFeed
