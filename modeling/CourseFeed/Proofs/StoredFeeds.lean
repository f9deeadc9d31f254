import CourseFeed.Feed.File
import CourseFeed.Proofs.Buffering
import CourseFeed.Proofs.Outcomes

/-!
# Feeds in the storage

A file that a session made stays where it is and holds what was written to it, as long as nothing
but the session and its journal touches the storage.

* **`Storage.Keeps`** — a storage has all directories of another, so a path leads where it led
  (**`Keeps.locate_eq`**).
* **`Session.Apart`** — the journal of a session, if it keeps one, is a file of its own.
* **`FeedFile.AtEnd`** — a file is at the end of what was written to it.  Deliveries keep this and
  add their bytes (**`takes_atEnd`**); a file that is put elsewhere keeps it and adds none
  (**`AtEnd.put`**).
* **`FeedFile.Open`** — the journal is elsewhere, so that noting something down adds none either
  (**`Open.note`**).
* **`AtEnd.openEntry_eq`** — what is read back is what was written.
-/

namespace CourseFeed

namespace Storage

/-! ## Entries -/

/-- What is found at a location after an entry was put in. -/
theorem find?_putIn (location : Location) (entry : Entry) (other : Location)
    (entries : List (Location × Entry)) :
    ((putIn location entry entries).find? fun e => e.1 == other).map Prod.snd =
      if other = location then some entry
      else (entries.find? fun e => e.1 == other).map Prod.snd := by
  induction entries with
  | nil =>
      by_cases h : other = location
      · simp [putIn, h]
      · simp [putIn, h, Ne.symm h]
  | cons hd tl ih =>
      obtain ⟨l, e⟩ := hd
      by_cases hl : l = location
      · subst hl
        by_cases h : other = l
        · simp [putIn, h]
        · simp [putIn, h, Ne.symm h]
      · rw [putIn, if_neg hl, List.find?_cons, List.find?_cons]
        by_cases h : l = other
        · subst h
          simp [hl]
        · simp only [beq_eq_false_iff_ne.mpr h]
          exact ih

/-- Away from the root, what is stored is what is found. -/
theorem entry?_of_ne_root (s : Storage) {location : Location} (h : location ≠ []) :
    s.entry? location = (s.entries.find? fun e => e.1 == location).map Prod.snd := by
  unfold entry?
  rw [List.isEmpty_eq_false_iff.mpr h]
  rfl

/-- Only what stands at the location changes. -/
theorem entry?_put (s : Storage) {location : Location} (hroot : location ≠ []) (entry : Entry)
    (other : Location) :
    Storage.entry? (s.put location entry) other =
      if other = location then some entry else s.entry? other := by
  by_cases hempty : other = []
  · subst hempty
    rw [if_neg (Ne.symm hroot)]
    rfl
  · rw [entry?_of_ne_root _ hempty, entry?_of_ne_root _ hempty]
    exact find?_putIn location entry other s.entries

/-- What stands elsewhere stays, also where an entry is put at the root. -/
theorem entry?_put_of_ne (s : Storage) {location other : Location} (h : other ≠ location)
    (entry : Entry) : Storage.entry? (s.put location entry) other = s.entry? other := by
  by_cases hempty : other = []
  · subst hempty
    rfl
  · rw [entry?_of_ne_root _ hempty, entry?_of_ne_root _ hempty]
    exact (find?_putIn location entry other s.entries).trans (if_neg h)

theorem contentAt_eq {s : Storage} {location : Location} {content : List UInt8}
    (h : s.entry? location = some (.file content)) : s.contentAt location = content := by
  rw [contentAt, h]

/-- No file stands at the root. -/
theorem ne_root_of_file {s : Storage} {location : Location} {content : List UInt8}
    (h : s.entry? location = some (.file content)) : location ≠ [] := by
  rintro rfl
  exact nomatch h

/-- The root is a directory. -/
theorem ne_root_of_not_directory {s : Storage} {location : Location}
    (h : s.entry? location ≠ some .directory) : location ≠ [] := by
  rintro rfl
  exact h rfl

theorem not_directory_of_file {s : Storage} {location : Location} {content : List UInt8}
    (h : s.entry? location = some (.file content)) : s.entry? location ≠ some .directory := by
  rw [h]
  exact fun hdirectory => nomatch hdirectory

/-! ## Paths -/

/-- A storage has the directories of another, and the same working directory. -/
structure Keeps (s s' : Storage) : Prop where
  working : s'.working = s.working
  directories : ∀ location, s.entry? location = some .directory →
    Storage.entry? s' location = some .directory

/-- Where a walk leads depends on directories only. -/
theorem Keeps.walk_eq {s s' : Storage} (h : s.Keeps s') {here location : Location}
    {parts : List String} (hwalk : s.walk here parts = .ok location) :
    s'.walk here parts = .ok location := by
  induction parts generalizing here with
  | nil => exact hwalk
  | cons part rest ih =>
      rw [walk] at hwalk ⊢
      by_cases hdot : part = "."
      · rw [if_pos hdot] at hwalk ⊢
        exact ih hwalk
      · rw [if_neg hdot] at hwalk ⊢
        by_cases hdots : part = ".."
        · rw [if_pos hdots] at hwalk ⊢
          exact ih hwalk
        · rw [if_neg hdots] at hwalk ⊢
          by_cases hlong : longestName < part.utf8ByteSize
          · rw [if_pos hlong] at hwalk
            exact nomatch hwalk
          · rw [if_neg hlong] at hwalk ⊢
            by_cases hlast : rest.isEmpty = true
            · simp only [if_pos hlast] at hwalk ⊢
              exact hwalk
            · simp only [if_neg hlast] at hwalk ⊢
              -- what is not the last part must be a directory, and that one is kept
              cases hentry : s.entry? (here ++ [part]) with
              | none =>
                  rw [hentry] at hwalk
                  exact nomatch hwalk
              | some entry =>
                  rw [hentry] at hwalk
                  cases entry with
                  | file content => exact nomatch hwalk
                  | directory =>
                      rw [h.directories _ hentry]
                      exact ih hwalk

theorem Keeps.locate_eq {s s' : Storage} (h : s.Keeps s') {path : String}
    {found : Location × Bool} (hlocate : s.locate path = .ok found) :
    s'.locate path = .ok found := by
  rw [locate] at hlocate ⊢
  by_cases hnul : path.toList.contains '\x00' = true
  · simp only [if_pos hnul] at hlocate
    exact nomatch hlocate
  · simp only [if_neg hnul] at hlocate ⊢
    by_cases hempty : path.isEmpty = true
    · rw [if_pos hempty] at hlocate
      exact nomatch hlocate
    · rw [if_neg hempty] at hlocate ⊢
      by_cases hlong : longestPath < path.utf8ByteSize
      · rw [if_pos hlong] at hlocate
        exact nomatch hlocate
      · rw [if_neg hlong] at hlocate ⊢
        rw [h.working]
        obtain ⟨location, hwalk, hfound⟩ := bind_eq_ok_iff.mp hlocate
        exact bind_eq_ok_iff.mpr ⟨location, h.walk_eq hwalk, hfound⟩

/-- Putting a file where no directory stands keeps the directories. -/
theorem keeps_put (s : Storage) {location : Location} (content : List UInt8)
    (h : s.entry? location ≠ some .directory) : s.Keeps (s.put location (.file content)) := by
  have hroot : location ≠ [] := by
    rintro rfl
    exact h rfl
  refine ⟨rfl, ?_⟩
  intro other hother
  rw [entry?_put s hroot, if_neg]
  · exact hother
  · rintro rfl
    exact h hother

/-- Putting a file somewhere makes no directory. -/
theorem put_keeps (s : Storage) {location : Location} (hroot : location ≠ [])
    (content : List UInt8) : (s.put location (.file content)).Keeps s := by
  refine ⟨rfl, ?_⟩
  intro other hother
  rw [entry?_put s hroot] at hother
  by_cases h : other = location
  · rw [if_pos h] at hother
    exact nomatch hother
  · rw [if_neg h] at hother
    exact hother

theorem Keeps.trans {s s' s'' : Storage} (h : s.Keeps s') (h' : s'.Keeps s'') : s.Keeps s'' :=
  ⟨h'.working.trans h.working, fun location hentry =>
    h'.directories location (h.directories location hentry)⟩

/-- Only a path that leads to no directory is opened for writing. -/
theorem of_openForWriting {s : Storage} {path : String} {location : Location}
    {content? : Option (List UInt8)} (h : s.openForWriting path = .ok (location, content?)) :
    s.locate path = .ok (location, false) ∧ s.entry? location ≠ some .directory := by
  obtain ⟨⟨found, directory⟩, hlocate, hfound⟩ := bind_eq_ok_iff.mp h
  cases hentry : s.entry? found with
  | none =>
      simp only [hentry] at hfound
      cases directory with
      | true => exact nomatch hfound
      | false =>
          obtain ⟨rfl, -⟩ := Prod.mk.inj (Except.ok.inj hfound)
          refine ⟨hlocate, ?_⟩
          rw [hentry]
          exact fun hdirectory => nomatch hdirectory
  | some entry =>
      simp only [hentry] at hfound
      cases entry with
      | directory => exact nomatch hfound
      | file content =>
          cases directory with
          | true => exact nomatch hfound
          | false =>
              obtain ⟨rfl, -⟩ := Prod.mk.inj (Except.ok.inj hfound)
              refine ⟨hlocate, ?_⟩
              rw [hentry]
              exact fun hdirectory => nomatch hdirectory

end Storage

/-! ## Files that are written -/

/-- The journal of a session, if it keeps one, is a file elsewhere than at a location. -/
def Session.Apart (s : Session) (location : Location) : Prop :=
  ∀ journal, s.journal = some journal → journal.location ≠ location ∧
    ∃ content, s.storage.entry? journal.location = some (.file content)

/-- The journal of a session, if it keeps one, is a stored file. -/
def Session.JournalStored (s : Session) : Prop :=
  ∀ journal, s.journal = some journal →
    ∃ content, s.storage.entry? journal.location = some (.file content)

theorem Session.Apart.stored {s : Session} {location : Location} (h : s.Apart location) :
    s.JournalStored :=
  fun journal hjournal => (h journal hjournal).2

/-- The session with an entry put in its storage. -/
def Session.put (s : Session) (location : Location) (entry : Entry) : Session :=
  { s with storage := s.storage.put location entry }

/-- Noting something down adds to the file of the journal, or changes nothing. -/
theorem Session.note_append (s : Session) (entry : JournalEntry) :
    s.note entry = s ∨ ∃ journal, s.journal = some journal ∧
      ∃ line, s.note entry = s.put journal.location
        (.file (s.storage.contentAt journal.location ++ line)) := by
  cases hjournal : s.journal with
  | none =>
      refine Or.inl ?_
      rw [Session.note, hjournal]
  | some journal =>
      by_cases hkept : journal.least.keptFrom entry.level = true
      · refine Or.inr ⟨journal, rfl, ?_⟩
        rw [Session.note, hjournal]
        simp only [if_pos hkept]
        exact ⟨_, by rw [← hjournal]; rfl⟩
      · refine Or.inl ?_
        rw [Session.note, hjournal]
        simp only [if_neg hkept]

/-- Noting something down changes nothing but the file of the journal. -/
theorem Session.note_cases (s : Session) (entry : JournalEntry) :
    s.note entry = s ∨ ∃ journal, s.journal = some journal ∧
      ∃ content, s.note entry = s.put journal.location (.file content) := by
  rcases s.note_append entry with hsame | ⟨journal, hmine, line, hnote⟩
  · exact Or.inl hsame
  · exact Or.inr ⟨journal, hmine, _, hnote⟩

/-- Putting a file in place of a file, or of nothing, leaves the journal apart. -/
theorem Session.Apart.put {s : Session} {location place : Location} (h : s.Apart location)
    (hroot : place ≠ []) (content : List UInt8) :
    (s.put place (.file content)).Apart location := by
  intro journal hjournal
  obtain ⟨hne, old, hold⟩ := h journal hjournal
  refine ⟨hne, ?_⟩
  show ∃ content', Storage.entry? (s.storage.put place (.file content)) journal.location = _
  rw [Storage.entry?_put s.storage hroot]
  by_cases hplace : journal.location = place
  · rw [if_pos hplace]
    exact ⟨content, rfl⟩
  · rw [if_neg hplace]
    exact ⟨old, hold⟩

/-- A session that made a file put an empty one where no directory was. -/
theorem Session.of_create {s session : Session} {path : String} {handle : Handle}
    (h : s.create path = .ok (session, handle)) :
    s.storage.locate path = .ok (handle.location, false) ∧
      s.storage.entry? handle.location ≠ some .directory ∧
      session = s.put handle.location (.file []) ∧ handle.offset = 0 := by
  rw [Session.create] at h
  cases hcreate : s.storage.create path with
  | error fault =>
      rw [hcreate] at h
      exact nomatch h
  | ok made =>
      obtain ⟨⟨location, content?⟩, hopen, hmade⟩ := bind_eq_ok_iff.mp hcreate
      obtain ⟨hlocate, hnot⟩ := Storage.of_openForWriting hopen
      rw [hcreate, ← Except.ok.inj hmade] at h
      obtain ⟨rfl, rfl⟩ := Prod.mk.inj (Except.ok.inj h)
      exact ⟨hlocate, hnot, rfl, rfl⟩

namespace Feed.FeedFile

/-- What the file holds. -/
def content (f : FeedFile) : List UInt8 := f.session.storage.contentAt f.handle.location

/-- A file is open at its end, at a location to which its path leads. -/
structure AtEnd (path : String) (location : Location) (f : FeedFile) : Prop where
  place : f.handle.location = location
  located : f.session.storage.locate path = .ok (f.handle.location, false)
  stored : f.session.storage.entry? f.handle.location = some (.file f.content)
  atEnd : f.handle.offset = f.content.length

/-- A file is open at its end, and the journal is elsewhere. -/
structure Open (path : String) (location : Location) (f : FeedFile) : Prop
    extends AtEnd path location f where
  apart : f.session.Apart f.handle.location

variable {path : String} {location : Location} {f : FeedFile}

/-- At the end of a file nothing is written over. -/
theorem overlay_length (old new : List UInt8) :
    Storage.overlay old old.length new = old ++ new := by
  have hdrop : old.drop (old.length + new.length) = [] := List.drop_eq_nil_of_le (by omega)
  rw [Storage.overlay, List.take_length, Nat.sub_self, hdrop]
  simp

/-- A file with bytes added at its end. -/
def extended (f : FeedFile) (bytes : List UInt8) : FeedFile :=
  ⟨f.session.put f.handle.location (.file (f.content ++ bytes)),
    ⟨f.handle.location, f.handle.offset + bytes.length⟩⟩

/-- A delivery to a file that is open at its end adds its bytes there. -/
theorem AtEnd.deliver_eq (h : f.AtEnd path location) (bytes : List UInt8) :
    deliver f bytes = .ok (f.extended bytes) := by
  have hwrite : f.session.storage.writeAt f.handle.location f.handle.offset bytes =
      f.session.storage.put f.handle.location (.file (f.content ++ bytes)) := by
    rw [Storage.writeAt, h.atEnd]
    exact congrArg _ (congrArg _ (overlay_length f.content bytes))
  rw [deliver, Session.writeTo, hwrite]
  rfl

/-- Bytes added at the end of a file leave it open at its end. -/
theorem AtEnd.extended (h : f.AtEnd path location) (bytes : List UInt8) :
    (f.extended bytes).AtEnd path location ∧ (f.extended bytes).content = f.content ++ bytes := by
  have hentry := Storage.entry?_put f.session.storage (Storage.ne_root_of_file h.stored)
    (.file (f.content ++ bytes)) f.handle.location
  rw [if_pos rfl] at hentry
  have hcontent : (f.extended bytes).content = f.content ++ bytes := Storage.contentAt_eq hentry
  refine ⟨⟨h.place, ?_, ?_, ?_⟩, hcontent⟩
  · have hnot := Storage.not_directory_of_file h.stored
    exact (Storage.keeps_put f.session.storage _ hnot).locate_eq h.located
  · rw [hcontent]
    exact hentry
  · rw [hcontent, List.length_append, ← h.atEnd]
    rfl

/-- **Deliveries to a file that is open at its end add their bytes to it.** -/
theorem takes_atEnd (path : String) (location : Location) :
    Takes deliver (AtEnd path location) content := by
  intro f bytes h
  obtain ⟨hend, hcontent⟩ := h.extended bytes
  exact ⟨f.extended bytes, h.deliver_eq bytes, hend, hcontent⟩

/-- Bytes added at the end of a file leave the journal elsewhere. -/
theorem Open.extended (h : f.Open path location) (bytes : List UInt8) :
    (f.extended bytes).Open path location :=
  ⟨(h.toAtEnd.extended bytes).1, h.apart.put (Storage.ne_root_of_file h.stored) _⟩

theorem takes_deliver (path : String) (location : Location) :
    Takes deliver (Open path location) content := by
  intro f bytes h
  exact ⟨f.extended bytes, h.deliver_eq bytes, h.extended bytes, (h.toAtEnd.extended bytes).2⟩

/-- A file put at another place leaves an open file as it is. -/
theorem AtEnd.put (h : f.AtEnd path location) {place : Location} (hne : place ≠ location)
    (hnot : f.session.storage.entry? place ≠ some .directory) (other : List UInt8) :
    (FeedFile.mk (f.session.put place (.file other)) f.handle).AtEnd path location ∧
      (FeedFile.mk (f.session.put place (.file other)) f.handle).content = f.content := by
  have hroot := Storage.ne_root_of_not_directory hnot
  have hentry : Storage.entry? (f.session.storage.put place (.file other)) f.handle.location =
      some (.file f.content) := by
    rw [Storage.entry?_put f.session.storage hroot, if_neg (by rw [h.place]; exact Ne.symm hne)]
    exact h.stored
  have hcontent : (FeedFile.mk (f.session.put place (.file other)) f.handle).content = f.content :=
    Storage.contentAt_eq hentry
  refine ⟨⟨h.place, ?_, ?_, ?_⟩, hcontent⟩
  · exact (Storage.keeps_put f.session.storage other hnot).locate_eq h.located
  · rw [hcontent]
    exact hentry
  · rw [hcontent]
    exact h.atEnd

/-- That other file may as well be the journal. -/
theorem Open.put (h : f.Open path location) {place : Location} (hne : place ≠ location)
    (hnot : f.session.storage.entry? place ≠ some .directory) (other : List UInt8) :
    (FeedFile.mk (f.session.put place (.file other)) f.handle).Open path location ∧
      (FeedFile.mk (f.session.put place (.file other)) f.handle).content = f.content := by
  have hroot := Storage.ne_root_of_not_directory hnot
  obtain ⟨hend, hcontent⟩ := h.toAtEnd.put hne hnot other
  exact ⟨⟨hend, h.apart.put hroot other⟩, hcontent⟩

/-- Noting something down leaves an open file as it is. -/
theorem Open.note (h : f.Open path location) (entry : JournalEntry) :
    (f.note entry).Open path location ∧ (f.note entry).content = f.content := by
  rcases f.session.note_cases entry with hsame | ⟨journal, hjournal, line, hnote⟩
  · have hfile : f.note entry = f := by
      rw [FeedFile.note, hsame]
    rw [hfile]
    exact ⟨h, rfl⟩
  -- a line goes to the journal, which is another file
  · obtain ⟨hne, old, hold⟩ := h.apart journal hjournal
    have hfile : f.note entry =
        FeedFile.mk (f.session.put journal.location (.file line)) f.handle := by
      rw [FeedFile.note, hnote]
    rw [hfile]
    exact h.put (h.place ▸ hne) (Storage.not_directory_of_file hold) line

/-- What is read from the path of an open file is what the file holds. -/
theorem AtEnd.openEntry_eq (h : f.AtEnd path location) :
    f.session.storage.openEntry path = .ok (.file f.content) := by
  rw [Storage.openEntry, h.located]
  simp only [bind, Except.bind, h.stored]
  rw [if_neg Bool.false_ne_true]

/-- A file that is made is empty, and the names of the columns are held back in its buffer. -/
theorem create_eq_ok {s session : Session} {handle : Handle}
    (h : s.create path = .ok (session, handle)) :
    create s path true = .ok (⟨session, handle⟩, ⟨⟨path, rowBytes Row.header⟩, 0⟩) := by
  have hfit : (rowBytes Row.header).length ≤ bufferSize := by decide +kernel
  have hdrain : drain deliver ⟨session, handle⟩ (rowBytes Row.header) =
      (⟨session, handle⟩, rowBytes Row.header, none) := by
    rw [drain, dif_pos hfit]
  have hwritten : (Writer.start path).writeUncounted deliver ⟨session, handle⟩ Row.header =
      (⟨session, handle⟩, ⟨⟨path, rowBytes Row.header⟩, 0⟩, none) := by
    simp only [Writer.writeUncounted, Buffer.write, Writer.start, Buffer.empty, List.nil_append,
      hdrain]
    rfl
  refine bind_eq_ok_iff.mpr ⟨(session, handle), h, ?_⟩
  simp only [if_true, hwritten]
  rfl

/-- A file that is made without the names of the columns is empty. -/
theorem create_nameless_eq_ok {s session : Session} {handle : Handle}
    (h : s.create path = .ok (session, handle)) :
    create s path false = .ok (⟨session, handle⟩, .start path) :=
  bind_eq_ok_iff.mpr ⟨(session, handle), h, rfl⟩

/-- **A file that a session made is open at its end**, and empty. -/
theorem atEnd_of_create {s session : Session} {handle : Handle}
    (h : s.create path = .ok (session, handle)) :
    (FeedFile.mk session handle).AtEnd path handle.location ∧
      (FeedFile.mk session handle).content = [] := by
  obtain ⟨hlocate, hnot, rfl, hoffset⟩ := Session.of_create h
  have hroot := Storage.ne_root_of_not_directory hnot
  have hentry := Storage.entry?_put s.storage hroot (.file []) handle.location
  rw [if_pos rfl] at hentry
  have hempty : (FeedFile.mk (s.put handle.location (.file [])) handle).content = [] :=
    Storage.contentAt_eq hentry
  refine ⟨⟨rfl, ?_, ?_, ?_⟩, hempty⟩
  · exact (Storage.keeps_put s.storage [] hnot).locate_eq hlocate
  · rw [hempty]
    exact hentry
  · rw [hempty]
    exact hoffset

/-- **A file that was made is open at its end**, and the names of the columns are written to it. -/
theorem open_of_create {s : Session} {file : FeedFile} {w : Writer}
    (h : create s path true = .ok (file, w)) (hapart : s.Apart file.handle.location) :
    file.Open path file.handle.location ∧
      file.content ++ w.buffer.pending = rowBytes Row.header := by
  obtain ⟨⟨session, handle⟩, hmade, -⟩ := bind_eq_ok_iff.mp h
  rw [create_eq_ok hmade] at h
  obtain ⟨rfl, rfl⟩ := Prod.mk.inj (Except.ok.inj h)
  obtain ⟨hend, hempty⟩ := atEnd_of_create hmade
  obtain ⟨-, -, hsession, -⟩ := Session.of_create hmade
  refine ⟨⟨hend, ?_⟩, ?_⟩
  · have hroot := Storage.ne_root_of_file hend.stored
    rw [hsession]
    exact hapart.put hroot []
  · rw [hempty, List.nil_append]

end Feed.FeedFile

end CourseFeed
