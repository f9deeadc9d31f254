import CourseFeed.Proofs.DiffReread
import CourseFeed.Proofs.Lockstep
import CourseFeed.Proofs.MemoryPass

/-!
# Sinks that share a file

Where two sinks of a pass lead to one file, each is written from the start of the file on, at an
offset of its own, over what is there.  The journal may be that file too, and goes on at its end.

* **`Woven`** — a file to which several texts were written so: as far as the longest of them
  reaches, each of its bytes is the byte of one of them at that place, and it goes on behind that
  only if it is the journal.  A delivery of more of one text keeps that (**`Woven.overlay`**), and
  so does an entry of the journal (**`Woven.append`**).
* **`SinksWoven`** — the sinks of some kinds are open, and the files to which they lead are woven of
  what was delivered (**`WovenAt`**).  It is kept by opening one more (**`SinksWoven.create`**), by
  deliveries (**`SinksWoven.deliver`**) and by noting something down (**`SinksWoven.note`**).
* **`lockstep_files`** — so a pass on files goes in lockstep with one in memory, which keeps the
  texts apart.
* **`diffFiles_woven`** — what is in the files of the sinks when a pass has succeeded.
-/

namespace CourseFeed

open CourseFeed.Feed

/-! ## Files that are written over -/

section

variable {leads : ChangeKind → Prop} {logged : Prop} {texts : ChangeKind → List UInt8}
  {content : List UInt8}

/-- A content is woven of the texts of some kinds: it reaches as far as each of them, and each byte
    stands at its place in one of them, or else behind all of them in a file that is the journal. -/
structure Woven (leads : ChangeKind → Prop) (logged : Prop) (texts : ChangeKind → List UInt8)
    (content : List UInt8) : Prop where
  covers : ∀ kind, leads kind → (texts kind).length ≤ content.length
  bytes : ∀ i, i < content.length →
    (∃ kind, leads kind ∧ content[i]? = (texts kind)[i]?) ∨
      (logged ∧ ∀ kind, leads kind → (texts kind).length ≤ i)

/-- Nothing is woven of empty texts. -/
theorem woven_nil : Woven leads logged (fun _ => []) [] :=
  ⟨fun _ _ => Nat.le_refl _, fun i hi => absurd hi (Nat.not_lt_zero i)⟩

/-- Only the texts of these kinds matter. -/
theorem Woven.congr (h : Woven leads logged texts content) {texts' : ChangeKind → List UInt8}
    (hsame : ∀ kind, leads kind → texts' kind = texts kind) :
    Woven leads logged texts' content where
  covers := by
    intro kind hkind
    rw [hsame kind hkind]
    exact h.covers kind hkind
  bytes := by
    intro i hi
    rcases h.bytes i hi with ⟨kind, hkind, hbyte⟩ | ⟨hlogged, hbehind⟩
    · refine Or.inl ⟨kind, hkind, ?_⟩
      rw [hsame kind hkind]
      exact hbyte
    · refine Or.inr ⟨hlogged, ?_⟩
      intro kind hkind
      rw [hsame kind hkind]
      exact hbehind kind hkind

/-- **An entry of the journal** goes behind all texts. -/
theorem Woven.append (h : Woven leads logged texts content) (hlogged : logged)
    (line : List UInt8) : Woven leads logged texts (content ++ line) where
  covers := by
    intro kind hkind
    rw [List.length_append]
    exact Nat.le_trans (h.covers kind hkind) (Nat.le_add_right _ _)
  bytes := by
    intro i _
    by_cases hold : i < content.length
    · rw [List.getElem?_append_left hold]
      exact h.bytes i hold
    · refine Or.inr ⟨hlogged, ?_⟩
      intro kind hkind
      exact Nat.le_trans (h.covers kind hkind) (Nat.le_of_not_lt hold)

/-- A content begins with the one text that is not empty. -/
theorem Woven.take_eq (h : Woven leads logged texts content) {kind : ChangeKind}
    (hkind : leads kind) (hothers : ∀ other, leads other → other ≠ kind → texts other = []) :
    content.take (texts kind).length = texts kind := by
  have hcovers := h.covers kind hkind
  refine List.ext_getElem? ?_
  intro i
  by_cases hi : i < (texts kind).length
  · rw [List.getElem?_take_of_lt hi]
    have hin : i < content.length := by omega
    rcases h.bytes i hin with ⟨other, hother, hbyte⟩ | ⟨-, hbehind⟩
    · by_cases hsame : other = kind
      · rw [hsame] at hbyte
        exact hbyte
      · rw [hothers other hother hsame, List.getElem?_nil, List.getElem?_eq_none_iff] at hbyte
        omega
    · exact absurd (hbehind kind hkind) (Nat.not_le_of_lt hi)
  · have hlength : (content.take (texts kind).length).length = (texts kind).length :=
      List.length_take_of_le hcovers
    rw [List.getElem?_eq_none (by omega), List.getElem?_eq_none (by omega)]

/-- A content that is no journal ends where one of the texts does. -/
theorem Woven.exists_longest (h : Woven leads logged texts content) (hlogged : ¬ logged)
    (hpos : 0 < content.length) : ∃ kind, leads kind ∧ content.length ≤ (texts kind).length := by
  have hlast : content.length - 1 < content.length := by omega
  rcases h.bytes _ hlast with ⟨kind, hkind, hbyte⟩ | ⟨hlog, -⟩
  · rw [List.getElem?_eq_getElem hlast] at hbyte
    have := (List.getElem?_eq_some_iff.mp hbyte.symm).1
    exact ⟨kind, hkind, by omega⟩
  · exact absurd hlog hlogged

/-- What is written over a content that reaches to the offset. -/
theorem getElem?_overlay {old new : List UInt8} {offset : Nat} (h : offset ≤ old.length) (i : Nat) :
    (Storage.overlay old offset new)[i]? =
      if offset ≤ i ∧ i < offset + new.length then new[i - offset]? else old[i]? := by
  have hgap : offset - old.length = 0 := by omega
  have hfront : (old.take offset).length = offset := List.length_take_of_le h
  rw [Storage.overlay, hgap, List.replicate_zero, List.append_nil, List.append_assoc]
  by_cases hbefore : i < offset
  · rw [List.getElem?_append_left (by omega), List.getElem?_take_of_lt hbefore, if_neg (by omega)]
  · rw [List.getElem?_append_right (by omega), hfront]
    by_cases hin : i < offset + new.length
    · rw [List.getElem?_append_left (by omega), if_pos (by omega)]
    · rw [List.getElem?_append_right (by omega), List.getElem?_drop, if_neg (by omega)]
      exact congrArg (old[·]?) (by omega)

theorem length_overlay {old new : List UInt8} {offset : Nat} (h : offset ≤ old.length) :
    (Storage.overlay old offset new).length = max old.length (offset + new.length) := by
  have hgap : offset - old.length = 0 := by omega
  simp only [Storage.overlay, hgap, List.replicate_zero, List.append_nil, List.length_append,
    List.length_take, List.length_drop]
  omega

/-- **More of one text is written at its end**, over what is there. -/
theorem Woven.overlay (h : Woven leads logged texts content) {kind : ChangeKind}
    (hkind : leads kind) (bytes : List UInt8) :
    Woven leads logged (fun k => if k = kind then texts k ++ bytes else texts k)
      (Storage.overlay content (texts kind).length bytes) := by
  have hoffset := h.covers kind hkind
  constructor
  · intro other hother
    rw [length_overlay hoffset]
    have hcovers := h.covers other hother
    by_cases hsame : other = kind
    · rw [if_pos hsame, List.length_append, hsame]
      omega
    · rw [if_neg hsame]
      omega
  · intro i hi
    rw [length_overlay hoffset] at hi
    rw [getElem?_overlay hoffset]
    by_cases hin : (texts kind).length ≤ i ∧ i < (texts kind).length + bytes.length
    · -- one of the bytes that are written
      refine Or.inl ⟨kind, hkind, ?_⟩
      rw [if_pos hin, if_pos rfl, List.getElem?_append_right hin.1]
    · rw [if_neg hin]
      have hold : i < content.length := by omega
      rcases h.bytes i hold with ⟨other, hother, hbyte⟩ | ⟨hlogged, hbehind⟩
      · refine Or.inl ⟨other, hother, ?_⟩
        by_cases hsame : other = kind
        · -- this byte of the text was there before
          have hlength : i < (texts other).length := by
            rw [List.getElem?_eq_getElem hold] at hbyte
            exact (List.getElem?_eq_some_iff.mp hbyte.symm).1
          rw [if_pos hsame, List.getElem?_append_left hlength]
          exact hbyte
        · rw [if_neg hsame]
          exact hbyte
      · -- what is behind all texts is behind what is written, too
        refine Or.inr ⟨hlogged, ?_⟩
        intro other hother
        have hbefore := hbehind other hother
        by_cases hsame : other = kind
        · subst hsame
          rw [if_pos rfl, List.length_append]
          omega
        · rw [if_neg hsame]
          exact hbefore

end

/-! ## Files of sinks -/

/-- The file at a location is woven of the texts of the sinks that lead there, and of what is noted
    down if the journal is kept there. -/
def WovenAt (start : Session) (sinks : DiffSinks) (texts : ChangeKind → List UInt8) (s : Session)
    (location : Location) : Prop :=
  ∃ content, s.storage.entry? location = some (.file content) ∧
    Woven (fun kind => sinks.place? start.storage kind = some location)
      (start.IsJournal location) texts content

namespace WovenAt

variable {start s : Session} {sinks : DiffSinks} {texts : ChangeKind → List UInt8}
  {location place : Location}

/-- Only the texts of the sinks that lead there matter. -/
theorem congr (h : WovenAt start sinks texts s location) {texts' : ChangeKind → List UInt8}
    (hsame : ∀ kind, sinks.place? start.storage kind = some location → texts' kind = texts kind) :
    WovenAt start sinks texts' s location := by
  obtain ⟨content, hentry, hwoven⟩ := h
  exact ⟨content, hentry, hwoven.congr hsame⟩

/-- A file that is put elsewhere changes nothing. -/
theorem put (h : WovenAt start sinks texts s location) (hroot : place ≠ [])
    (hne : location ≠ place) (content : List UInt8) :
    WovenAt start sinks texts (s.put place (.file content)) location := by
  obtain ⟨old, hentry, hwoven⟩ := h
  exact ⟨old, ((Storage.entry?_put s.storage hroot _ _).trans (if_neg hne)).trans hentry, hwoven⟩

/-- A file that is emptied is woven of nothing. -/
theorem emptied (start s : Session) (sinks : DiffSinks) (hroot : place ≠ []) :
    WovenAt start sinks (fun _ => []) (s.put place (.file [])) place :=
  ⟨[], (Storage.entry?_put s.storage hroot _ _).trans (if_pos rfl), woven_nil⟩

/-- Writing more of one text over a file, at the end of that text. -/
theorem overlay (h : WovenAt start sinks texts s location) {kind : ChangeKind}
    (hplace : sinks.place? start.storage kind = some place) {content : List UInt8}
    (hcontent : s.storage.entry? place = some (.file content)) (bytes : List UInt8) :
    WovenAt start sinks (fun k => if k = kind then texts k ++ bytes else texts k)
      (s.put place (.file (Storage.overlay content (texts kind).length bytes))) location := by
  have hroot := Storage.ne_root_of_file hcontent
  by_cases hshared : location = place
  · subst hshared
    obtain ⟨old, hentry, hwoven⟩ := h
    obtain rfl := Entry.file.inj (Option.some.inj (hcontent.symm.trans hentry))
    exact ⟨_, (Storage.entry?_put s.storage hroot _ _).trans (if_pos rfl),
      hwoven.overlay hplace bytes⟩
  · refine (h.put hroot hshared _).congr ?_
    intro other hother
    refine if_neg ?_
    rintro rfl
    exact hshared (Option.some.inj (hother.symm.trans hplace))

/-- Noting something down changes at most the end of the file, if the journal is kept there. -/
theorem note {places : Location → Prop} (h : WovenAt start sinks texts s location)
    (hchanged : Session.ChangedOnly places start s) (entry : JournalEntry) :
    WovenAt start sinks texts (s.note entry) location := by
  rcases s.note_append entry with hsame | ⟨journal, hmine, line, hnote⟩
  · rw [hsame]
    exact h
  · obtain ⟨log, hlog⟩ := hchanged.logs journal hmine
    have hroot := Storage.ne_root_of_file hlog
    rw [hnote]
    by_cases hshared : location = journal.location
    · obtain ⟨content, hentry, hwoven⟩ := h
      have hjournal : start.IsJournal location :=
        ⟨journal, hchanged.journal.symm.trans hmine, hshared.symm⟩
      refine ⟨content ++ line, ?_, hwoven.append hjournal line⟩
      rw [← hshared, Storage.contentAt_eq hentry]
      exact (Storage.entry?_put s.storage (hshared ▸ hroot) _ _).trans (if_pos rfl)
    · exact h.put hroot hshared _

end WovenAt

/-! ## Open sinks -/

/-- The sinks of some kinds are open at the ends of the texts that were delivered to them, and the
    files to which they lead are woven of these. -/
structure SinksWoven (start : Session) (sinks : DiffSinks) (kinds : List ChangeKind)
    (texts : ChangeKind → List UInt8) (s : Session) (handles : Handles) : Prop where
  changed : Session.ChangedOnly (sinks.Written start) start s
  closed : ∀ kind, sinks.get kind = none → handles.get kind = none
  opened : ∀ kind ∈ kinds, ∀ path, sinks.get kind = some path →
    ∃ handle, handles.get kind = some handle ∧
      start.storage.locate path = .ok (handle.location, false) ∧
      handle.offset = (texts kind).length ∧ WovenAt start sinks texts s handle.location

namespace SinksWoven

variable {start s : Session} {sinks : DiffSinks} {kinds : List ChangeKind}
  {texts : ChangeKind → List UInt8} {handles : Handles} {kind : ChangeKind} {path : String}

/-- Before any sink is opened. -/
theorem of_changed (h : Session.ChangedOnly (sinks.Written start) start s) :
    SinksWoven start sinks [] (fun _ => []) s .none where
  changed := h
  closed := by
    intro kind _
    cases kind <;> rfl
  opened := by
    intro kind hkind
    exact absurd hkind List.not_mem_nil

/-- A text that is delivered to no file does not matter. -/
theorem congr (h : SinksWoven start sinks kinds texts s handles) {texts' : ChangeKind → List UInt8}
    (hsame : ∀ kind, (sinks.get kind).isSome → texts' kind = texts kind) :
    SinksWoven start sinks kinds texts' s handles where
  changed := h.changed
  closed := h.closed
  opened := by
    intro kind hkind path hpath
    obtain ⟨handle, hget, hlocate, hoffset, hfile⟩ := h.opened kind hkind path hpath
    refine ⟨handle, hget, hlocate, ?_, hfile.congr ?_⟩
    · rw [hsame kind (by rw [hpath]; rfl)]
      exact hoffset
    · intro other hother
      obtain ⟨path', hpath', -⟩ := Option.bind_eq_some_iff.mp hother
      exact hsame other (by rw [hpath']; rfl)

/-- Setting the handle of a kind that has a sink leaves the others closed. -/
theorem closed_set (h : SinksWoven start sinks kinds texts s handles)
    (hpath : sinks.get kind = some path) (handle : Handle) :
    ∀ other, sinks.get other = none → (handles.set kind handle).get other = none := by
  intro other hnone
  rw [Handles.get_set]
  by_cases hsame : other = kind
  · rw [hsame, hpath] at hnone
    exact absurd hnone (Option.some_ne_none path)
  · rw [if_neg hsame]
    exact h.closed other hnone

/-- **A delivery** adds its bytes to the text of its kind. -/
theorem deliver (h : SinksWoven start sinks kinds texts s handles) (hkind : kind ∈ kinds)
    (hpath : sinks.get kind = some path) (bytes : List UInt8) :
    ∃ handle s' handle', handles.get kind = some handle ∧
      s.writeTo handle bytes = (s', handle') ∧
      SinksWoven start sinks kinds (fun k => if k = kind then texts k ++ bytes else texts k) s'
        (handles.set kind handle') := by
  obtain ⟨handle, hget, hlocate, hoffset, content, hentry, -⟩ := h.opened kind hkind path hpath
  have hplace : sinks.place? start.storage kind = some handle.location :=
    (DiffSinks.place?_eq hpath start.storage).trans (Storage.place?_of_locate hlocate)
  let written := Storage.overlay content (texts kind).length bytes
  have hwrite : s.writeTo handle bytes = (s.put handle.location (.file written),
      { handle with offset := handle.offset + bytes.length }) := by
    rw [Session.writeTo, Storage.writeAt, Storage.contentAt_eq hentry, hoffset]
    rfl
  refine ⟨handle, _, _, hget, hwrite, ?_, h.closed_set hpath _, ?_⟩
  · exact h.changed.put (Or.inl ⟨kind, hplace⟩) (Storage.not_directory_of_file hentry) written
  · intro other hother path' hpath'
    obtain ⟨handle', hget', hlocate', hoffset', hfile⟩ := h.opened other hother path' hpath'
    have hafter := hfile.overlay hplace hentry bytes
    rw [Handles.get_set]
    by_cases hsame : other = kind
    · subst hsame
      obtain rfl := Option.some.inj (hget'.symm.trans hget)
      refine ⟨{ handle' with offset := handle'.offset + bytes.length }, if_pos rfl, hlocate', ?_,
        hafter⟩
      rw [if_pos rfl, List.length_append, ← hoffset]
    · refine ⟨handle', (if_neg hsame).trans hget', hlocate', ?_, hafter⟩
      rw [if_neg hsame]
      exact hoffset'

/-- **Noting something down** leaves the sinks open where they are. -/
theorem note (h : SinksWoven start sinks kinds texts s handles) (entry : JournalEntry) :
    SinksWoven start sinks kinds texts (s.note entry) handles := by
  refine ⟨h.changed.note (fun _ => Or.inr) entry, h.closed, ?_⟩
  intro kind hkind path hpath
  obtain ⟨handle, hget, hlocate, hoffset, hfile⟩ := h.opened kind hkind path hpath
  exact ⟨handle, hget, hlocate, hoffset, hfile.note h.changed entry⟩

/-- So does noting down several things. -/
theorem note_all (h : SinksWoven start sinks kinds texts s handles) (entries : List JournalEntry) :
    SinksWoven start sinks kinds texts (entries.foldl Session.note s) handles := by
  induction entries generalizing s with
  | nil => exact h
  | cons entry rest ih => exact ih (h.note entry)

/-- **Opening one more sink** empties its file, which may be that of a sink that is open. -/
theorem create (h : SinksWoven start sinks kinds (fun _ => []) s handles)
    (hpath : sinks.get kind = some path) {s' : Session} {handle : Handle}
    (hcreate : s.create path = .ok (s', handle)) :
    SinksWoven start sinks (kinds ++ [kind]) (fun _ => []) s' (handles.set kind handle) := by
  obtain ⟨hlocate, hnot, rfl, hoffset⟩ := Session.of_create hcreate
  have hroot := Storage.ne_root_of_not_directory hnot
  have hstart : start.storage.locate path = .ok (handle.location, false) :=
    h.changed.kept.locate_eq hlocate
  have hplace : sinks.place? start.storage kind = some handle.location :=
    (DiffSinks.place?_eq hpath start.storage).trans (Storage.place?_of_locate hstart)
  have hempty := WovenAt.emptied start s sinks hroot
  refine ⟨h.changed.put (Or.inl ⟨kind, hplace⟩) hnot [], h.closed_set hpath _, ?_⟩
  intro other hother path' hpath'
  rw [Handles.get_set]
  by_cases hsame : other = kind
  · subst hsame
    obtain rfl := Option.some.inj (hpath.symm.trans hpath')
    exact ⟨handle, if_pos rfl, hstart, hoffset, hempty⟩
  · have hopened : other ∈ kinds := by
      rcases List.mem_append.mp hother with hmem | hmem
      · exact hmem
      · exact absurd (List.mem_singleton.mp hmem) hsame
    obtain ⟨handle', hget, hlocate', hoffset', hfile⟩ := h.opened other hopened path' hpath'
    refine ⟨handle', (if_neg hsame).trans hget, hlocate', hoffset', ?_⟩
    by_cases hshared : handle'.location = handle.location
    · rw [hshared]
      exact hempty
    · exact hfile.put hroot hshared []

/-- Opening sinks one after the other opens all of them. -/
theorem openSinks (h : SinksWoven start sinks kinds (fun _ => []) s handles)
    {rest : List ChangeKind} {outputs outputs' : Outputs} {s' : Session} {handles' : Handles}
    (hrun : CourseFeed.openSinks sinks s handles outputs rest = (s', .ok (handles', outputs'))) :
    SinksWoven start sinks (kinds ++ rest) (fun _ => []) s' handles' := by
  induction rest generalizing kinds s handles outputs with
  | nil =>
      obtain ⟨rfl, hok⟩ := Prod.mk.inj hrun
      obtain ⟨rfl, -⟩ := Prod.mk.inj (Except.ok.inj hok)
      rw [List.append_nil]
      exact h
  | cons kind rest ih =>
      rw [List.append_cons]
      rw [CourseFeed.openSinks] at hrun
      cases hpath : sinks.get kind with
      | none =>
          -- a kind without a sink counts as opened
          have hopen : SinksWoven start sinks (kinds ++ [kind]) (fun _ => []) s handles := by
            refine ⟨h.changed, h.closed, ?_⟩
            intro other hmem path hother
            rcases List.mem_append.mp hmem with hmem | hmem
            · exact h.opened other hmem path hother
            · rw [List.mem_singleton.mp hmem, hpath] at hother
              exact absurd hother.symm (Option.some_ne_none path)
          simp only [hpath] at hrun
          exact ih hopen hrun
      | some path =>
          simp only [hpath] at hrun
          cases hcreate : s.create path with
          | error fault =>
              rw [hcreate] at hrun
              cases (Prod.mk.inj hrun).2
          | ok made =>
              simp only [hcreate] at hrun
              exact ih (h.create hpath hcreate) hrun

end SinksWoven

/-! ## Passes on files -/

/-- A pass on files goes along with one in memory: the observer is in the same state, and the files
    of the sinks are woven of what is in the sinks in memory. -/
def Alongside (start : Session) (sinks : DiffSinks) {σ : Type} (w : FileWorld σ)
    (t : σ × Shelf) : Prop :=
  w.state = t.1 ∧ t.2.refused = [] ∧
    SinksWoven start sinks ChangeKind.all t.2.get w.session w.handles

/-- **A pass on files goes in lockstep with one in memory**, whichever sinks share a file. -/
theorem lockstep_files {σ : Type} {start : Session} {sinks : DiffSinks}
    (options : DiffOptions) (announce : Change → List JournalEntry) (observer : Observer σ) :
    (fileStage options announce observer).Lockstep (Alongside start sinks)
      (memoryStage options observer) where
  observe := by
    rintro w ⟨s, shelf⟩ c ⟨rfl, hrefused, hwoven⟩
    -- whatever is announced is noted down first
    exact ⟨{ w with
      state := (observer w.state c options).1,
      session := (announce c).foldl Session.note w.session },
      ((observer w.state c options).1, shelf), _, rfl, rfl, rfl, hrefused,
      hwoven.note_all (announce c)⟩
  deliver := by
    rintro kind w ⟨s, shelf⟩ bytes ⟨hstate, hrefused, hwoven⟩
    have hfree : kind ∉ shelf.refused := by
      rw [show shelf.refused = [] from hrefused]
      exact List.not_mem_nil
    obtain ⟨shelf', hok, hrefused', hget⟩ := shelf.deliver_spec bytes hfree
    have hmemory : (memoryStage options observer).deliver kind (s, shelf) bytes =
        .ok (s, shelf') := by
      simp only [memoryStage, hok]
      rfl
    cases hpath : sinks.get kind with
    | none =>
        -- what is delivered for a kind without a sink goes nowhere
        refine ⟨w, (s, shelf'), ?_, hmemory, hstate, hrefused'.trans hrefused, hwoven.congr ?_⟩
        · simp only [fileStage, hwoven.closed kind hpath]
        · intro other hsome
          refine (hget other).trans (if_neg ?_)
          rintro rfl
          rw [hpath] at hsome
          exact absurd hsome Bool.false_ne_true
    | some path =>
        obtain ⟨handle, s', handle', hhandle, hwrite, hwoven'⟩ :=
          hwoven.deliver kind.mem_all hpath bytes
        refine ⟨{ w with session := s', handles := w.handles.set kind handle' }, (s, shelf'), ?_,
          hmemory, hstate, hrefused'.trans hrefused, ?_⟩
        · simp only [fileStage, hhandle, hwrite]
        · rw [show shelf'.get = _ from funext hget]
          exact hwoven'
  note := by
    rintro w t entry ⟨hstate, hrefused, hwoven⟩
    exact ⟨hstate, hrefused, hwoven.note entry⟩

section

variable {σ : Type} {s s' : Session} {old new : String} {sinks : DiffSinks} {options : DiffOptions}
  {announce : Change → List JournalEntry} {observer : Observer σ} {state : σ}
  {summary : DiffSummary}

/-- **A run on open sinks succeeds**, and the files of the sinks are woven of the lines of the
    changes told. -/
theorem runOnFiles_woven {start : Session} {handles : Handles}
    (hopen : SinksWoven start sinks ChangeKind.all (fun _ => []) s handles) (old new : Keyed) :
    let calls := (consult observer options state (changes old new)).2
    ∃ s' handles',
      runOnFiles (fileStage options announce observer) options old new ⟨state, s, handles⟩
        (.opened sinks) = (s', .ok (calls.foldl DiffSummary.tally .zero)) ∧
      SinksWoven start sinks ChangeKind.all (linesTo · calls) s' handles' := by
  intro calls
  have hempty : (Shelf.empty []).get = fun _ => [] := by
    funext kind
    cases kind <;> rfl
  have halongside : Alongside start sinks (⟨state, s, handles⟩ : FileWorld σ)
      (state, .empty []) := by
    refine ⟨rfl, rfl, ?_⟩
    rw [hempty]
    exact hopen
  have hsteps : (fileStage options announce observer).Lockstep (Alongside start sinks)
      (memoryStage options observer) := lockstep_files options announce observer
  obtain ⟨w, t, o, summary, hrun, hrun', halongside'⟩ :=
    hsteps.run options halongside (.opened sinks) .zero (changes old new)
  obtain ⟨w', t', hfinish, hfinish', -, -, hwoven⟩ := hsteps.finish halongside' o
  -- the pass in memory says what was delivered
  obtain ⟨p, world, hmemory, hend, -, hsum, hget⟩ :=
    pass_memory observer options old new state sinks
  obtain ⟨rfl, -⟩ := Prod.mk.inj (hmemory.symm.trans hrun')
  obtain ⟨rfl, -⟩ := Prod.mk.inj (hend.symm.trans hfinish')
  refine ⟨w'.session.note (completion summary), w'.handles, ?_, ?_⟩
  · simp only [runOnFiles, diffRows, hrun, hfinish, Option.or]
    rw [show summary = _ from hsum]
  · refine (hwoven.congr ?_).note _
    intro kind hsome
    refine Eq.trans ?_ (hget kind).symm
    rw [if_pos hsome]

/-- **The files of the sinks of a pass that succeeded.**  Both feeds were loaded, the summary counts
    the calls of the observer, and each file to which sinks lead is woven of the lines of those
    changes of their kinds that were told. -/
theorem diffFiles_woven (hstored : s.JournalStored)
    (hrun : diffFiles s old new sinks options announce observer state = (s', .ok summary)) :
    ∃ s₁ olds s₂ news, loadKeyed s old = (s₁, .ok olds) ∧ loadKeyed s₁ new = (s₂, .ok news) ∧
      let calls := (consult observer options state (changes olds news)).2
      summary = calls.foldl DiffSummary.tally .zero ∧
      ∃ handles, SinksWoven s sinks ChangeKind.all (linesTo · calls) s' handles := by
  rcases diffFiles_cases s old new sinks options announce observer state with
    ⟨fault, hfault⟩ | ⟨entry, fault, hfault⟩ | ⟨olds, news, entry, entry', -, -, hold, hnew, hopens⟩
  · exact nomatch (Prod.mk.inj (hrun.symm.trans hfault)).2
  · exact nomatch (Prod.mk.inj (hrun.symm.trans hfault)).2
  · rcases hopens with ⟨s₁, fault, hopened, hfault⟩ | ⟨s₁, handles, hopened, hpass⟩
    · exact nomatch (Prod.mk.inj (hrun.symm.trans hfault)).2
    · have hstart : Session.ChangedOnly (sinks.Written s) s s := .refl hstored
      have hloaded := (hstart.note (fun _ => Or.inr) entry).note (fun _ => Or.inr) entry'
      have hnone := SinksWoven.of_changed hloaded
      obtain ⟨s₂, handles', hrun', hwoven⟩ :=
        runOnFiles_woven (hnone.openSinks hopened) (Keyed.ofRows olds) (Keyed.ofRows news)
      obtain ⟨rfl, hok⟩ := Prod.mk.inj (hrun.symm.trans (hpass.trans hrun'))
      exact ⟨_, _, _, _, hold, hnew, Except.ok.inj hok, handles', hwoven⟩

end

end CourseFeed
