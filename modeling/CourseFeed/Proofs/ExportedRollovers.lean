import CourseFeed.Proofs.Patching
import CourseFeed.Proofs.RolloverRows
import CourseFeed.Proofs.SharedSinks
import Mathlib.Data.Finset.Card

/-!
# Rollovers from an export to a pass

What a course comes after is said in its catalog.  An export for rollovers leaves it in the rows,
and a pass that is to tell rollovers finds it there; every other export clears it, so that the same
pass creates plain rows.

* **`TellsRollovers`** — what a pass creates and counts that tells the keys of a set as rollovers.
  A pass that is to tell rollovers does so with the new keys whose rows name what they come after
  (**`tellsRollovers_changes`**).
* **`rolledKeys`** — the keys of exported elements that an old feed does not have and whose last
  element comes after something.  They are what such a pass finds in the rows of an export for
  rollovers, and in those of other exports it finds none (**`mem_rolled_iff`**).
* **`diffFiles_counts`** — where both feeds can be read, a pass can fail only at opening its sinks.
* **`rollovers_carried_over`** — from the catalog to the file of the export, and from there to the
  summary and the sink of created rows.
-/

namespace CourseFeed

open CourseFeed.Feed

/-! ## Creations -/

/-- Whether a change creates a row of some kind. -/
def Change.creates (p : Row → Bool) : Change → Bool
  | .create row => p row
  | .delete _ => false
  | .update _ _ => false

section

variable {old new : Keyed} {p : Row → Bool} {keys : Finset Key}

/-- **The creations of some kind are as many as the new keys with such a row.** -/
theorem countP_creates (hold : old.Proper) (hnew : new.Proper)
    (hkeys : ∀ key, key ∈ keys ↔
      old.get? key = none ∧ ∃ row, new.get? key = some row ∧ p row = true) :
    (changes old new).countP (Change.creates p) = keys.card := by
  let created := (changes old new).filter (Change.creates p)
  have hnodup : (created.map Change.key).Nodup :=
    (List.filter_sublist.map Change.key).nodup (nodup_keys_changes hold hnew)
  have hsame : (created.map Change.key).toFinset = keys := by
    ext key
    rw [List.mem_toFinset, List.mem_map, hkeys]
    constructor
    · rintro ⟨c, hc, rfl⟩
      obtain ⟨hmem, hcreates⟩ := List.mem_filter.mp hc
      have hbetween := (mem_changes_iff hold hnew c).mp hmem
      cases c with
      | create row => exact ⟨hbetween.1, row, hbetween.2, hcreates⟩
      | delete row => exact absurd hcreates Bool.false_ne_true
      | update row row' => exact absurd hcreates Bool.false_ne_true
    · rintro ⟨hnone, row, hsome, hrow⟩
      have hkey := hnew.key_of_get? hsome
      have hbetween : (Change.create row).Between old new := by
        show old.get? row.key = none ∧ new.get? row.key = some row
        rw [hkey]
        exact ⟨hnone, hsome⟩
      have hmem := (mem_changes_iff hold hnew _).mpr hbetween
      exact ⟨.create row, List.mem_filter.mpr ⟨hmem, hrow⟩, hkey⟩
  rw [List.countP_eq_length_filter, ← hsame, List.toFinset_card_of_nodup hnodup, List.length_map]

end

/-! ## What is told as a rollover -/

/-- What a pass creates and counts that tells the keys of a set as rollovers: their rows are marked
    and name what they come after, and all others do neither. -/
structure TellsRollovers (keys : Finset Key) (summary : DiffSummary) (created : List Row) :
    Prop where
  counted : summary.created = created.length
  rolledOver : summary.rolledOver = keys.card
  marked : ∀ r ∈ created, r.key ∈ keys →
    r.operationCode = Operation.rollover.code ∧ r.oldCourseCode ≠ "" ∧ r.oldSectionId ≠ ""
  unmarked : ∀ r ∈ created, r.key ∉ keys →
    r.operationCode = Operation.update.code ∧ r.oldCourseCode = "" ∧ r.oldSectionId = ""

section

variable {old new : Keyed} {keys : Finset Key}

/-- A creation is told as a rollover just if its row names what it comes after. -/
theorem rollsOver_proceed {c : Change} (h : c.told.Full) :
    DiffSummary.rollsOver ⟨c, ⟨true⟩, .proceed⟩ = c.creates Row.hasPrevious := by
  cases c with
  | delete row => rfl
  | update row row' => rfl
  | create row =>
      have hcode : ((Change.create row).format ⟨true⟩).operationCode =
          (if row.hasPrevious then Operation.rollover else .update).code :=
        Row.operationCode_mark h _
      show decide (((Change.create row).format ⟨true⟩).operationCode = Operation.rollover.code) =
        row.hasPrevious
      rw [hcode]
      cases row.hasPrevious <;> decide

/-- What a pass counts that tells all changes and is to tell rollovers. -/
theorem counts_of_proceed {σ : Type} {cs : List Change} (hfull : ∀ c ∈ cs, c.told.Full)
    (state : σ) :
    let summary := (consult Observer.always ⟨true⟩ state cs).2.foldl DiffSummary.tally .zero
    summary.created = (formatted ⟨true⟩ cs .create).length ∧
      summary.rolledOver = cs.countP (Change.creates Row.hasPrevious) := by
  intro summary
  have hcalls : (consult Observer.always ⟨true⟩ state cs).2 =
      cs.map fun c => ⟨c, ⟨true⟩, .proceed⟩ :=
    consult_of_answers (fun _ _ => rfl) (fun _ => by decide) state cs
  have haccounts : summary.Accounts (cs.map fun c => ⟨c, ⟨true⟩, .proceed⟩) := by
    rw [← hcalls]
    exact DiffSummary.accounts_zero.foldl_tally _
  constructor
  · refine (haccounts.told .create).trans ?_
    rw [List.countP_map, List.countP_eq_length_filter, formatted, List.length_map]
    refine congrArg List.length (List.filter_congr ?_)
    intro c _
    simp [Consultation.tells]
  · rw [haccounts.rolledOver, List.countP_map]
    refine List.countP_congr ?_
    intro c hc
    rw [Function.comp_apply, rollsOver_proceed (hfull c hc)]

/-- A row that is told as created is that of a new key, marked as a rollover if it names what it
    comes after. -/
theorem exists_of_mem_formatted_create (hold : old.Proper) (hnew : new.Proper) {r : Row}
    (hr : r ∈ formatted ⟨true⟩ (changes old new) .create) :
    ∃ row, .create row ∈ changes old new ∧ old.get? r.key = none ∧ new.get? r.key = some row ∧
      r = row.mark (if row.hasPrevious then .rollover else .update) := by
  obtain ⟨c, hc, hkind, rfl⟩ := mem_formatted.mp hr
  cases c with
  | delete row => exact nomatch hkind
  | update row row' => exact nomatch hkind
  | create row =>
      obtain ⟨hnone, hsome⟩ := (mem_changes_iff hold hnew _).mp hc
      rw [Change.key_format]
      exact ⟨row, hc, hnone, hsome, rfl⟩

/-- **A pass that is to tell rollovers** tells the new keys so whose rows name what they come
    after. -/
theorem tellsRollovers_changes {σ : Type} (hold : old.Proper) (hnew : new.Proper)
    (hfull : ∀ c ∈ changes old new, c.told.Full)
    (hkeys : ∀ key, key ∈ keys ↔
      old.get? key = none ∧ ∃ row, new.get? key = some row ∧ row.hasPrevious = true) (state : σ) :
    TellsRollovers keys
      ((consult Observer.always ⟨true⟩ state (changes old new)).2.foldl DiffSummary.tally .zero)
      (formatted ⟨true⟩ (changes old new) .create) := by
  obtain ⟨hcreated, hrolled⟩ := counts_of_proceed hfull state
  refine ⟨hcreated, hrolled.trans (countP_creates hold hnew hkeys), ?_, ?_⟩
  · intro r hr hkey
    obtain ⟨row, hc, -, hsome, hrow⟩ := exists_of_mem_formatted_create hold hnew hr
    obtain ⟨-, row', hsome', hprevious⟩ := (hkeys _).mp hkey
    obtain rfl := Option.some.inj (hsome.symm.trans hsome')
    have hwide : row.Full := hfull _ hc
    rw [hrow, if_pos hprevious, Row.operationCode_mark hwide, Row.oldCourseCode_mark hwide,
      Row.oldSectionId_mark hwide]
    exact ⟨rfl, row.hasPrevious_iff.mp hprevious⟩
  · intro r hr hkey
    obtain ⟨row, hc, hnone, hsome, hrow⟩ := exists_of_mem_formatted_create hold hnew hr
    have hprevious : ¬ row.hasPrevious = true :=
      fun h => hkey ((hkeys _).mpr ⟨hnone, row, hsome, h⟩)
    have hwide : row.Full := hfull _ hc
    rw [hrow, if_neg hprevious, Row.operationCode_mark hwide, Row.oldCourseCode_mark hwide,
      Row.oldSectionId_mark hwide]
    exact ⟨rfl, rfl, rfl⟩

end

/-! ## Exported keys -/

namespace Row

/-- A marked row names what it comes after if it did before and is marked as a rollover. -/
theorem hasPrevious_mark {r : Row} (h : r.Full) (op : Operation) :
    (r.mark op).hasPrevious = true ↔ op = .rollover ∧ r.hasPrevious = true := by
  rw [hasPrevious_iff, oldCourseCode_mark h, oldSectionId_mark h, hasPrevious_iff]
  by_cases hop : op = .rollover
  · rw [if_pos hop, if_pos hop]
    exact ⟨fun hnamed => ⟨hop, hnamed⟩, And.right⟩
  · rw [if_neg hop, if_neg hop]
    exact ⟨fun hnamed => absurd rfl hnamed.1, fun hboth => absurd hboth.1 hop⟩

end Row

instance (e : Element) : Decidable e.ComesAfter := decidable_of_iff _ e.hasPrevious_row_iff

/-- The last of some elements that has a key. -/
def lastWith (es : List Element) (key : Key) : Option Element :=
  (es.filter fun e => e.row.key = key).getLast?

/-- The keys of some elements that an old feed does not have, and whose last element comes after
    something. -/
def rolledKeys (olds : List Row) (es : List Element) : Finset Key :=
  (es.map fun e => e.row.key).toFinset.filter fun key =>
    key ∉ olds.map Row.key ∧ ∃ e ∈ lastWith es key, e.ComesAfter

theorem mem_rolledKeys {olds : List Row} {es : List Element} {key : Key} :
    key ∈ rolledKeys olds es ↔
      key ∉ olds.map Row.key ∧ ∃ e ∈ lastWith es key, e.ComesAfter := by
  rw [rolledKeys, Finset.mem_filter, List.mem_toFinset]
  refine ⟨And.right, ?_⟩
  rintro ⟨hnew, e, hlast, hafter⟩
  obtain ⟨he, hkey⟩ := List.mem_filter.mp (List.mem_of_getLast? hlast)
  exact ⟨List.mem_map.mpr ⟨e, he, of_decide_eq_true hkey⟩, hnew, e, hlast, hafter⟩

namespace Catalog

/-- Of the exported rows with a key, the one of the last element counts. -/
theorem get?_markedRows (c : Catalog) (filters : List (Filter Element)) (op : Operation)
    (key : Key) :
    (Keyed.ofRows (c.markedRows filters op)).get? key =
      (lastWith (c.elements filters) key).map fun e => e.row.mark op := by
  rw [Keyed.get?_ofRows, markedRows, List.filter_map, List.getLast?_map, lastWith]
  simp only [Function.comp_def, Row.key_mark]

/-- **What a pass finds in the rows of an export**: they name what they come after just if the
    export was one for rollovers and the last element with the key comes after something. -/
theorem mem_rolled_iff (c : Catalog) (filters : List (Filter Element)) (op : Operation)
    (olds : List Row) (key : Key) :
    key ∈ (if op = .rollover then rolledKeys olds (c.elements filters) else ∅) ↔
      (Keyed.ofRows olds).get? key = none ∧
        ∃ row, (Keyed.ofRows (c.markedRows filters op)).get? key = some row ∧
          row.hasPrevious = true := by
  have hfound : (∃ row, (Keyed.ofRows (c.markedRows filters op)).get? key = some row ∧
      row.hasPrevious = true) ↔
        op = .rollover ∧ ∃ e ∈ lastWith (c.elements filters) key, e.ComesAfter := by
    rw [get?_markedRows]
    constructor
    · rintro ⟨row, hrow, hprevious⟩
      obtain ⟨e, he, rfl⟩ := Option.map_eq_some_iff.mp hrow
      obtain ⟨hop, hafter⟩ := (Row.hasPrevious_mark e.full_row op).mp hprevious
      exact ⟨hop, e, he, e.hasPrevious_row_iff.mp hafter⟩
    · rintro ⟨hop, e, he, hafter⟩
      refine ⟨e.row.mark op, Option.map_eq_some_iff.mpr ⟨e, he, rfl⟩, ?_⟩
      exact (Row.hasPrevious_mark e.full_row op).mpr ⟨hop, e.hasPrevious_row_iff.mpr hafter⟩
  rw [hfound, Keyed.get?_ofRows_eq_none_iff]
  by_cases hop : op = .rollover
  · rw [if_pos hop, mem_rolledKeys]
    exact and_congr_right fun _ => (and_iff_right hop).symm
  · rw [if_neg hop]
    exact ⟨fun hmem => absurd hmem (Finset.notMem_empty key), fun h => absurd h.2.1 hop⟩

end Catalog

/-! ## Passes on files -/

section

variable {σ : Type} {s s' : Session} {old new : String} {olds news : List Row} {sinks : DiffSinks}
  {options : DiffOptions} {announce : Change → List JournalEntry} {observer : Observer σ}
  {state : σ} {summary : DiffSummary}

/-- **Where both feeds can be read, a pass fails only if a sink cannot be opened**, and otherwise
    counts the calls of its observer, whichever files its sinks share. -/
theorem diffFiles_counts (hold : readRows s.storage old = .ok olds)
    (hnew : readRows s.storage new = .ok news)
    (hjournal : ∀ location, s.storage.place? new = some location → s.Apart location)
    (sinks : DiffSinks) (options : DiffOptions) (announce : Change → List JournalEntry)
    (observer : Observer σ) (state : σ) :
    (∃ s₁ s₂ fault, Session.ChangedOnly s.IsJournal s s₁ ∧
      openSinks sinks s₁ .none .none ChangeKind.all = (s₂, .error fault) ∧
      diffFiles s old new sinks options announce observer state = (s₂, .error fault)) ∨
    ∃ s', diffFiles s old new sinks options announce observer state =
      (s', .ok ((consult observer options state
        (changes (Keyed.ofRows olds) (Keyed.ofRows news))).2.foldl DiffSummary.tally .zero)) := by
  obtain ⟨entry, entry', hchanged, hpass⟩ :=
    diffFiles_eq hold hnew hjournal sinks options announce observer state
  obtain ⟨s₁, opened, hopened⟩ : ∃ s₁ opened,
      openSinks sinks ((s.note entry).note entry') .none .none ChangeKind.all = (s₁, opened) :=
    ⟨_, _, rfl⟩
  obtain ⟨hfault, hrun⟩ := hpass s₁ opened hopened
  cases opened with
  | error fault => exact Or.inl ⟨_, s₁, fault, hchanged, hopened, hfault fault rfl⟩
  | ok made =>
      obtain ⟨handles, outputs⟩ := made
      obtain rfl := outputs_openSinks_all hopened
      have hnone : SinksWoven s sinks [] _ _ .none :=
        .of_changed (hchanged.mono fun _ => Or.inr)
      obtain ⟨s₂, handles', hpassed, -⟩ :=
        runOnFiles_woven (hnone.openSinks hopened) (Keyed.ofRows olds) (Keyed.ofRows news)
      exact Or.inr ⟨s₂, (hrun handles _ rfl).trans hpassed⟩

/-- The sink of a kind holds the lines of the changes told, once a pass has succeeded. -/
theorem readRows_sink_diffFiles (hold : readRows s.storage old = .ok olds)
    (hnew : readRows s.storage new = .ok news)
    (hjournal : ∀ location, s.storage.place? new = some location → s.Apart location)
    (hsinks : sinks.Separate s)
    (hrun : diffFiles s old new sinks options announce observer state = (s', .ok summary))
    {kind : ChangeKind} {path : String} (hpath : sinks.get kind = some path) :
    readRows s'.storage path = rowsOfBytes path (linesTo kind (consult observer options state
      (changes (Keyed.ofRows olds) (Keyed.ofRows news))).2) := by
  obtain ⟨entry, entry', hpass⟩ :=
    diffFiles_of_openSinks hold hnew hjournal hsinks options announce observer state
  obtain ⟨hfault, hmade⟩ := hpass _ _ rfl
  cases hopened : (openSinks sinks ((s.note entry).note entry') .none .none
      ChangeKind.all).2 with
  | error fault => exact nomatch (Prod.mk.inj (hrun.symm.trans (hfault fault hopened))).2
  | ok made =>
      obtain ⟨s'', handles, hsame, hopen, hcontent⟩ := hmade made hopened
      obtain ⟨rfl, -⟩ := Prod.mk.inj (hrun.symm.trans hsame)
      rw [readRows_sink hopen hpath, hcontent, if_pos (by rw [hpath]; rfl)]

end

/-! ## From the catalog to the sink -/

/-- What a pass that is to tell rollovers makes of an export: if this was not one for rollovers,
    nothing is rolled over, and the created rows have neither an operation nor a course that they
    come after; and else the keys are rolled over whose last element comes after something. -/
structure CarriedOver (olds : List Row) (es : List Element) (op : Operation)
    (summary : DiffSummary) (created : List Row) : Prop where
  counted : summary.created = created.length
  cleared : op ≠ .rollover → summary.rolledOver = 0 ∧
    ∀ r ∈ created, r.operationCode = "" ∧ r.oldCourseCode = "" ∧ r.oldSectionId = ""
  kept : op = .rollover → TellsRollovers (rolledKeys olds es) summary created

namespace Catalog

section

variable {c : Catalog} {filters : List (Filter Element)} {op : Operation} {olds : List Row}

/-- The changes from an old feed to an export carry its rollovers over. -/
theorem carriedOver_changes {σ : Type} (hold : ∀ r ∈ olds, r.Full) (state : σ) :
    CarriedOver olds (c.elements filters) op
      ((consult Observer.always ⟨true⟩ state (changes (Keyed.ofRows olds)
        (Keyed.ofRows (c.markedRows filters op)))).2.foldl DiffSummary.tally .zero)
      (formatted ⟨true⟩ (changes (Keyed.ofRows olds)
        (Keyed.ofRows (c.markedRows filters op))) .create) := by
  have hfull : ∀ change ∈ changes (Keyed.ofRows olds) (Keyed.ofRows (c.markedRows filters op)),
      change.told.Full := by
    intro change hchange
    rcases told_mem_of_mem_changes hchange with hmem | hmem
    · exact Keyed.full_ofRows hold _ hmem
    · exact Keyed.full_ofRows (c.full_markedRows filters op) _ hmem
  have htells := tellsRollovers_changes (Keyed.proper_ofRows olds)
    (Keyed.proper_ofRows (c.markedRows filters op)) hfull (c.mem_rolled_iff filters op olds) state
  refine ⟨htells.counted, ?_, ?_⟩
  · intro hop
    rw [if_neg hop] at htells
    exact ⟨htells.rolledOver, fun r hr => htells.unmarked r hr (Finset.notMem_empty r.key)⟩
  · intro hop
    rw [if_pos hop] at htells
    exact htells

/-- Created rows of an export can be read back. -/
theorem readable_created (hplain : ∀ e ∈ c.elements filters, e.row.Plain)
    (hmark : ∀ e ∈ c.elements filters, ¬ e.row.HasOrderMark) (options : DiffOptions) {r : Row}
    (hr : r ∈ formatted options (changes (Keyed.ofRows olds)
      (Keyed.ofRows (c.markedRows filters op))) .create) : r.Readable := by
  obtain ⟨change, hchange, hkind, rfl⟩ := mem_formatted.mp hr
  cases change with
  | delete row => exact nomatch hkind
  | update row row' => exact nomatch hkind
  | create row =>
      have hbetween := (mem_changes_iff (Keyed.proper_ofRows olds)
        (Keyed.proper_ofRows (c.markedRows filters op)) _).mp hchange
      have hmem := Keyed.mem_of_mem_rows_ofRows (Keyed.mem_rows_of_get? hbetween.2)
      obtain ⟨e, he, rfl⟩ := List.mem_map.mp hmem
      have hcode : (e.row.mark op).courseCode = e.row.courseCode :=
        e.row.get_mark_of_lt op (by decide)
      have hnone : ¬ (e.row.mark op).HasOrderMark := by
        rw [Row.HasOrderMark, hcode]
        exact hmark e he
      exact Change.readable_format (c := .create (e.row.mark op)) (e.full_row.mark op)
        ((hplain e he).mark op) hnone options

end

end Catalog

/-- **A pass finds the rollovers of an export just if this was one for rollovers.**  Some elements,
    whose rows have no tab or line end in a cell and no order mark in front, are exported.  Wherever
    the file then stands, and whatever old feed can be read, a pass from that to the file fails only
    if a sink cannot be opened.  After an export that was not for rollovers it rolls nothing over,
    and the rows that it creates are plain; after one that was it rolls over the keys that are new
    and whose last element comes after a course and a section that both have a name.  If the sinks
    are files of their own, that of the created rows is read back as these. -/
theorem rollovers_carried_over {s : Session} {new : String} {file : FeedFile} {w : Writer}
    (hcreate : FeedFile.create s new true = .ok (file, w))
    (hapart : s.Apart file.handle.location) (c : Catalog) (filters : List (Filter Element))
    (op : Operation) (hplain : ∀ e ∈ c.elements filters, e.row.Plain)
    (hmark : ∀ e ∈ c.elements filters, ¬ e.row.HasOrderMark) :
    ∃ file' w' file'',
      c.exportTo FeedFile.deliver FeedFile.note file w filters op =
        (file', w', .ok (c.elements filters).length) ∧
      w'.finish FeedFile.deliver file' = (file'', none) ∧
      ∀ (t : Session) (old : String) (olds : List Row) (sinks : DiffSinks)
        (announce : Change → List JournalEntry),
        t.storage.openEntry new = file''.session.storage.openEntry new →
        (∀ location, t.storage.place? new = some location → t.Apart location) →
        readRows t.storage old = .ok olds →
        (∃ t₁ t₂ fault, Session.ChangedOnly t.IsJournal t t₁ ∧
          openSinks sinks t₁ .none .none ChangeKind.all = (t₂, .error fault) ∧
          diffFiles t old new sinks ⟨true⟩ announce Observer.always () = (t₂, .error fault)) ∨
        ∃ t' summary created,
          diffFiles t old new sinks ⟨true⟩ announce Observer.always () = (t', .ok summary) ∧
          created = formatted ⟨true⟩ (changes (Keyed.ofRows olds)
            (Keyed.ofRows (c.markedRows filters op))) .create ∧
          CarriedOver olds (c.elements filters) op summary created ∧
          (sinks.Separate t → ∀ path, sinks.create = some path →
            readRows t'.storage path = .ok created) := by
  obtain ⟨file', w', file'', hexport, hfinish, hopen, hcontent⟩ :=
    Catalog.content_export hcreate hapart c filters op
  refine ⟨file', w', file'', hexport, hfinish, ?_⟩
  intro t old olds sinks announce hstored hjournal hold
  -- the file is read as the rows that were exported
  have hmarked : ∀ r ∈ c.markedRows filters op, r.Plain := by
    intro r hr
    obtain ⟨e, he, rfl⟩ := List.mem_map.mp hr
    exact (hplain e he).mark op
  have hnew : readRows t.storage new = .ok (c.markedRows filters op) := by
    rw [readRows_of_openEntry (hstored.trans hopen.openEntry_eq), hcontent]
    exact (rowsOfBytes_iff (c.full_markedRows filters op) new).mpr hmarked
  rcases diffFiles_counts hold hnew hjournal sinks ⟨true⟩ announce Observer.always () with
    hfault | ⟨t', hrun⟩
  · exact Or.inl hfault
  · refine Or.inr ⟨t', _, _, hrun, rfl, ?_, ?_⟩
    · exact Catalog.carriedOver_changes (fun r hr => (full_plain_of_readRows hold r hr).1) ()
    · intro hsinks path hpath
      have hsink : sinks.get .create = some path := hpath
      rw [readRows_sink_diffFiles hold hnew hjournal hsinks hrun hsink,
        linesTo_of_proceed fun _ _ => rfl]
      exact rowsOfBytes_of_readable
        (fun r hr => Catalog.readable_created hplain hmark ⟨true⟩ hr) path

/-- One course that comes after another is exported as a rollover, and a pass from an empty feed to
    the file rolls it over. -/
theorem rollovers_carried_over_one_course :
    let s : Session := ⟨⟨[], []⟩, none⟩
    let c : Catalog := ⟨[{ code := "B", previous := some ⟨"A", "1"⟩ }]⟩
    let t : Session := ⟨⟨[], [(["old.tsv"], .file []),
      (["feed.tsv"], .file (feedBytes (c.markedRows [] .rollover)))]⟩, none⟩
    (∀ e ∈ c.elements [], e.row.Plain) ∧ (∀ e ∈ c.elements [], ¬ e.row.HasOrderMark) ∧
    ∃ file w file' w' file'' t' summary, FeedFile.create s "feed.tsv" true = .ok (file, w) ∧
      c.exportTo FeedFile.deliver FeedFile.note file w [] .rollover = (file', w', .ok 1) ∧
      w'.finish FeedFile.deliver file' = (file'', none) ∧
      t.storage.openEntry "feed.tsv" = file''.session.storage.openEntry "feed.tsv" ∧
      readRows t.storage "old.tsv" = .ok [] ∧
      diffFiles t "old.tsv" "feed.tsv" ⟨none, none, none⟩ ⟨true⟩ (fun _ => []) Observer.always () =
        (t', .ok summary) ∧
      summary.rolledOver = 1 := by
  intro s c t
  have hplain : ∀ e ∈ c.elements [], e.row.Plain := by decide +kernel
  have hmark : ∀ e ∈ c.elements [], ¬ e.row.HasOrderMark := by decide +kernel
  have hmade : s.create "feed.tsv" =
      .ok (s.put ["feed.tsv"] (.file []), ⟨["feed.tsv"], 0⟩) := by rfl
  have hcreate := FeedFile.create_eq_ok hmade
  have hapart : ∀ {u : Session}, u.journal = none → ∀ location, u.Apart location := by
    intro u hnone location journal hjournal
    exact nomatch hnone.symm.trans hjournal
  have hnone : ∀ r ∈ ([] : List Row), r.Readable := fun r hr => nomatch hr
  have hold : readRows t.storage "old.tsv" = .ok [] :=
    (readRows_of_openEntry rfl).trans (rowsOfBytes_of_readable hnone "old.tsv")
  obtain ⟨file', w', file'', hexport, hfinish, hpass⟩ :=
    rollovers_carried_over hcreate (hapart rfl _) c [] .rollover hplain hmark
  -- the file of the export holds what stands in the other storage
  obtain ⟨written, writer, closed, hwritten, hclosed, hopen, hcontent⟩ :=
    Catalog.content_export hcreate (hapart rfl _) c [] .rollover
  obtain ⟨rfl, hrest⟩ := Prod.mk.inj (hexport.symm.trans hwritten)
  obtain ⟨rfl, -⟩ := Prod.mk.inj hrest
  obtain ⟨rfl, -⟩ := Prod.mk.inj (hfinish.symm.trans hclosed)
  have hstored : t.storage.openEntry "feed.tsv" = file''.session.storage.openEntry "feed.tsv" := by
    rw [hopen.openEntry_eq, hcontent]
    rfl
  rcases hpass t "old.tsv" [] ⟨none, none, none⟩ (fun _ => []) hstored (fun _ _ => hapart rfl _)
    hold with ⟨t₁, t₂, fault, -, hopened, -⟩ | ⟨t', summary, created, hrun, -, hcarried, -⟩
  · exact nomatch (Prod.mk.inj hopened).2
  · have hcard : (rolledKeys [] (c.elements [])).card = 1 := by decide +kernel
    exact ⟨hplain, hmark, _, _, file', w', file'', t', summary, hcreate, hexport, hfinish, hstored,
      hold, hrun, (hcarried.kept rfl).rolledOver.trans hcard⟩

end CourseFeed
