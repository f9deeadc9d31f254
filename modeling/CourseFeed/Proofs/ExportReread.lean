import CourseFeed.Catalog.Export
import CourseFeed.Proofs.ElementRows
import CourseFeed.Proofs.FeedLines
import CourseFeed.Proofs.StoredFeeds

/-!
# Exported files read back

An export writes one row for each element that its filters select, and the file it makes is read
back as these rows just if none of their cells has a tab or a line end in it.

* **`exportTo_spec`** — wherever deliveries are taken, an export adds the marked rows of the
  selected elements to what was written, and succeeds.
* **`readRows_export_iff`** — what is read back from the file of an export.
* **`title_with_tab_not_reread`** — a catalog whose export is not read back.
-/

namespace CourseFeed

open CourseFeed.Feed CourseFeed.Text

namespace Catalog

/-- The rows of the elements that some filters accept, marked with an operation. -/
def markedRows (c : Catalog) (filters : List (Filter Element)) (op : Operation) : List Row :=
  (c.elements filters).map fun e => e.row.mark op

theorem full_markedRows (c : Catalog) (filters : List (Filter Element)) (op : Operation) :
    ∀ r ∈ c.markedRows filters op, r.Full := by
  intro r hr
  obtain ⟨e, -, rfl⟩ := List.mem_map.mp hr
  exact e.full_row.mark op

/-! ## One export -/

section

variable {ω : Type} {deliver : Deliver ω} {note : ω → JournalEntry → ω} {ready : ω → Prop}
  {held : ω → List UInt8}

/-- **An export writes the marked rows of the selected elements and succeeds**, where deliveries
    are taken and noting something down changes nothing. -/
theorem exportTo_spec (h : Takes deliver ready held)
    (hnote : ∀ world entry, ready world →
      ready (note world entry) ∧ held (note world entry) = held world)
    (world : ω) (w : Writer) (c : Catalog) (filters : List (Filter Element)) (op : Operation)
    (hready : ready world) :
    ∃ world' w', exportTo deliver note world w c filters op =
        (world', w', .ok (c.elements filters).length) ∧ ready world' ∧
      held world' ++ w'.buffer.pending =
        held world ++ w.buffer.pending ++ (c.markedRows filters op).flatMap rowBytes := by
  obtain ⟨hread, hheld⟩ := foldl_note hnote (c.readingEntries filters 0 c.years) world hready
  obtain ⟨middle, w', hwrite, hmiddle, hall⟩ :=
    Writer.writeAll_spec h op _ w (c.rows filters) hread
  obtain ⟨hlast, hkept⟩ :=
    hnote middle (exported (c.rows filters).length op w'.buffer.path) hmiddle
  refine ⟨_, w', ?_, hlast, ?_⟩
  · simp only [exportTo, hwrite]
    rw [rows, List.length_map]
  · rw [hkept, hall, hheld, rows, List.map_map]
    rfl

end

/-- An export to a file that could be made succeeds, and the file holds what was written behind the
    names of the columns. -/
theorem content_export {s : Session} {path : String} {file : FeedFile} {w : Writer}
    (hcreate : FeedFile.create s path true = .ok (file, w))
    (hapart : s.Apart file.handle.location) (c : Catalog) (filters : List (Filter Element))
    (op : Operation) :
    ∃ file' w' file'',
      c.exportTo FeedFile.deliver FeedFile.note file w filters op =
        (file', w', .ok (c.elements filters).length) ∧
      w'.finish FeedFile.deliver file' = (file'', none) ∧
      file''.Open path file.handle.location ∧
      file''.content = feedBytes (c.markedRows filters op) := by
  obtain ⟨hopen, hnames⟩ := FeedFile.open_of_create hcreate hapart
  have htakes := FeedFile.takes_deliver path file.handle.location
  obtain ⟨file', w', hexport, hopen', hall⟩ :=
    exportTo_spec htakes (fun f entry h => h.note entry) file w c filters op hopen
  obtain ⟨file'', hfinish, hopen'', hcontent⟩ := w'.buffer.finish_spec htakes file' hopen'
  refine ⟨file', w', file'', hexport, hfinish, hopen'', ?_⟩
  rw [hnames] at hall
  exact hcontent.trans hall

/-- So what is read back is what was written. -/
theorem readRows_export {s : Session} {path : String} {file : FeedFile} {w : Writer}
    (hcreate : FeedFile.create s path true = .ok (file, w))
    (hapart : s.Apart file.handle.location) (c : Catalog) (filters : List (Filter Element))
    (op : Operation) :
    ∃ file' w' file'',
      c.exportTo FeedFile.deliver FeedFile.note file w filters op =
        (file', w', .ok (c.elements filters).length) ∧
      w'.finish FeedFile.deliver file' = (file'', none) ∧
      readRows file''.session.storage path =
        rowsOfBytes path (feedBytes (c.markedRows filters op)) := by
  obtain ⟨file', w', file'', hexport, hfinish, hopen, hcontent⟩ :=
    content_export hcreate hapart c filters op
  refine ⟨file', w', file'', hexport, hfinish, ?_⟩
  rw [readRows, hopen.openEntry_eq, hcontent]

/-- **What is read back from the file of an export.**  However its cells came about, an export to
    a file that could be made succeeds, and the rows of the selected elements are read back, each
    once, in order and marked, just if no cell of them has a tab or a line end in it. -/
theorem readRows_export_iff {s : Session} {path : String} {file : FeedFile} {w : Writer}
    (hcreate : FeedFile.create s path true = .ok (file, w))
    (hapart : s.Apart file.handle.location) (c : Catalog) (filters : List (Filter Element))
    (op : Operation) :
    ∃ file' w' file'',
      c.exportTo FeedFile.deliver FeedFile.note file w filters op =
        (file', w', .ok (c.elements filters).length) ∧
      w'.finish FeedFile.deliver file' = (file'', none) ∧
      (readRows file''.session.storage path =
          .ok ((c.elements filters).map fun e => e.row.mark op) ↔
        ∀ e ∈ c.elements filters, (e.row.mark op).Plain) := by
  obtain ⟨file', w', file'', hexport, hfinish, hread⟩ :=
    readRows_export hcreate hapart c filters op
  refine ⟨file', w', file'', hexport, hfinish, ?_⟩
  rw [hread]
  refine (rowsOfBytes_iff (c.full_markedRows filters op) path).trans ?_
  exact List.forall_mem_map

/-- The export of one course for deletion, to a storage that holds nothing else. -/
theorem readRows_export_iff_one_course :
    let s : Session := ⟨⟨[], []⟩, none⟩
    let c : Catalog := ⟨[{ code := "MATH-101", title := "Algebra", year := 2024 }]⟩
    ∃ file w, FeedFile.create s "feed.tsv" true = .ok (file, w) ∧
      s.Apart file.handle.location ∧
      ∃ file' w' file'',
        c.exportTo FeedFile.deliver FeedFile.note file w [] .delete = (file', w', .ok 1) ∧
        w'.finish FeedFile.deliver file' = (file'', none) ∧
        readRows file''.session.storage "feed.tsv" =
          .ok ((c.elements []).map fun e => e.row.mark .delete) := by
  intro s c
  have hmade : s.create "feed.tsv" =
      .ok (s.put ["feed.tsv"] (.file []), ⟨["feed.tsv"], 0⟩) := by rfl
  have hapart : s.Apart ["feed.tsv"] := fun _ hjournal => nomatch hjournal
  obtain ⟨file', w', file'', hexport, hfinish, hread⟩ :=
    readRows_export_iff (FeedFile.create_eq_ok hmade) hapart c [] .delete
  have hplain : ∀ e ∈ c.elements [], (e.row.mark .delete).Plain := by decide +kernel
  exact ⟨_, _, FeedFile.create_eq_ok hmade, hapart, file', w', file'', hexport, hfinish,
    hread.mpr hplain⟩

/-- A catalog with a tab in a title is exported, and the file of the export cannot be read: the
    tab sets two fields apart, and the row has one too many. -/
theorem title_with_tab_not_reread :
    let s : Session := ⟨⟨[], []⟩, none⟩
    let c : Catalog := ⟨[{ title := "a\tb" }]⟩
    Catalog.ofJson "\x7b\"courses\":[\x7b\"title\":\"a\\tb\"\x7d]\x7d" = .ok c ∧
    ∃ file w file' w' file'', FeedFile.create s "feed.tsv" true = .ok (file, w) ∧
      c.exportTo FeedFile.deliver FeedFile.note file w [] .update = (file', w', .ok 1) ∧
      w'.finish FeedFile.deliver file' = (file'', none) ∧
      readRows file''.session.storage "feed.tsv" = .error (.tooWide 2 32) := by
  intro s c
  have hmade : s.create "feed.tsv" =
      .ok (s.put ["feed.tsv"] (.file []), ⟨["feed.tsv"], 0⟩) := by rfl
  have hapart : s.Apart ["feed.tsv"] := fun _ hjournal => nomatch hjournal
  obtain ⟨file', w', file'', hexport, hfinish, hread⟩ :=
    readRows_export (FeedFile.create_eq_ok hmade) hapart c [] .update
  refine ⟨rfl, _, _, file', w', file'', FeedFile.create_eq_ok hmade, hexport, hfinish, ?_⟩
  obtain ⟨offset, hrecords⟩ :=
    rowsOfBytes_feedBytes (c.full_markedRows [] .update) "feed.tsv"
  -- the title makes two fields, so the line of the row has 32
  let fields : List (List Char) :=
    ['b'] :: List.replicate 11 [] ++ ['0'] :: List.replicate 17 []
  have hlines : linesOf (c.markedRows [] .update) =
      joinFields ([] :: ['a'] :: fields) ++ '\n' :: [] := by decide +kernel
  have hplain : ∀ field ∈ [] :: ['a'] :: fields, PlainText field := by decide
  obtain ⟨offset', hrecord⟩ := recordsFrom_join hplain 2 offset []
  rw [hread, hrecords, hlines, hrecord]
  rfl

end Catalog

end CourseFeed
